import FacetedQuery.Proofs.Sparql.Spelling
import FacetedQuery.Proofs.Template.Filling

/-!
# Frames

A template whose placeholder stands between white space, and a value whose tokens survive an
indentation and the trimming of lines.  The finished template then consists of the tokens around the
placeholder with the tokens of the value at every place of it.
-/

namespace FacetedQuery.Template

open Sparql (Token)
open Sparql.Token (Spells endsEscape unescape unescape_append)

def Spaces (text : List Char) : Prop :=
  ∀ character ∈ text, Json.isSpace character = true

instance (text : List Char) : Decidable (Spaces text) :=
  List.decidableBAll (fun character => Json.isSpace character = true) text

/-- A text whose first character, if it has one, is white space. -/
def Spaced (text : List Char) : Prop :=
  ∀ character ∈ text.head?, Json.isSpace character = true

instance (text : List Char) : Decidable (Spaced text) :=
  Option.decidableForallMem (p := fun character => Json.isSpace character = true) text.head?

/-- A text that starts with the end of a line and goes on behind it. -/
def LineEnd (text : List Char) : Prop :=
  ∃ rest, text = '\n' :: rest ∧ rest ≠ []

/-- A value of the given tokens, however its lines are indented and trimmed, in front of texts of a
kind. -/
structure Insertable (behind : List Char → Prop) (value : List Char) (tokens : List Token) :
    Prop where
  free : Free value
  shown : Text.visible value = true
  closed : Text.Closed value
  spells : ∀ {indentation after : List Char} {more : List Token}, Spaces indentation →
    '\n' ∉ indentation → behind after → Spells (unescape after) more →
      Spells (unescape (Text.trimFinished (indent indentation value) ++ after)) (tokens ++ more)

/-- A text with white space around every place of a placeholder, and the tokens that stand before,
between and behind these places.  What follows a place is of a kind. -/
inductive Frame (follows : List Char → Prop) (placeholder : Placeholder) :
    List Char → List (List Token) → Prop where
  | last {text : List Char} {tokens : List Token} :
      Free text → Spells (unescape (stripLines text)) tokens →
      Frame follows placeholder text [tokens]
  | slot {text gap rest : List Char} {tokens : List Token} {groups : List (List Token)} :
      Free text → Text.Closed text → Spaces gap → (text = [] ∨ gap ≠ []) →
      Spells (unescape (stripLines text)) tokens → follows rest →
      Frame follows placeholder rest groups →
      Frame follows placeholder (text ++ gap ++ placeholder.token.toList ++ rest)
        (tokens :: groups)

/-- Groups of tokens with other tokens between each two. -/
def weave (inner : List Token) : List (List Token) → List Token
  | [] => []
  | [tokens] => tokens
  | tokens :: groups => tokens ++ inner ++ weave inner groups

/-- A line that, if it is blank, consists of white space of queries. -/
def Neat (line : List Char) : Prop :=
  line.all Text.isBlank = true → Spaces line

theorem feed_not_mem_continueLine {line : List Char} (onLine : '\n' ∉ line) (text : List Char) :
    '\n' ∉ continueLine line text := by
  induction text generalizing line with
  | nil => exact onLine
  | cons first text induction =>
      rw [continueLine_cons]
      refine induction ?_
      by_cases feed : first = '\n'
      · simp [continueLine, feed]
      · simpa [continueLine, feed, Ne.symm feed] using onLine

theorem neat_nil : Neat [] := by
  simp [Neat, Spaces]

theorem Neat.spaces {line gap : List Char} (neat : Neat line) (spaces : Spaces gap) :
    Neat (continueLine line gap) := by
  induction gap generalizing line with
  | nil => exact neat
  | cons character gap induction =>
      rw [continueLine_cons]
      refine induction ?_ fun other member => spaces other (by simp [member])
      by_cases feed : character = '\n'
      · simpa [continueLine, feed] using neat_nil
      · have step : continueLine line [character] = character :: line := by
          simp [continueLine, feed]
        rw [step]
        intro blank
        rw [List.all_cons, Bool.and_eq_true] at blank
        simpa [Spaces] using ⟨spaces character (by simp), neat blank.2⟩

theorem neat_of_closed {text : List Char} (closed : Text.Closed text) (nonempty : text ≠ [])
    (line : List Char) : Neat (continueLine line text) := by
  obtain ⟨before, split⟩ : ∃ before, text = before ++ [text.getLast nonempty] :=
    ⟨_, (List.dropLast_concat_getLast nonempty).symm⟩
  have shown : Text.isBlank (text.getLast nonempty) = false :=
    closed _ (by simp [List.getLast?_eq_some_getLast nonempty])
  have noFeed := Text.ne_feed_of_shown shown
  rw [split, continueLine_append]
  intro blank
  simp [continueLine, noFeed, shown] at blank

theorem exists_indentation {line : List Char} (neat : Neat line) (onLine : '\n' ∉ line)
    (value : List Char) : ∃ indentation, Spaces indentation ∧ '\n' ∉ indentation ∧
      inserted line value = indent indentation value := by
  unfold inserted
  split
  · next blank => exact ⟨line.reverse, by simpa [Spaces] using neat blank, by simpa using onLine,
      rfl⟩
  · exact ⟨[], by simp [Spaces], by simp, (Text.indent_nil value).symm⟩

section

variable {text after gap : List Char} {tokens more : List Token}

theorem endsEscape_of_isSpace {character : Char} (space : Json.isSpace character = true) :
    endsEscape character = true := by
  simp only [Json.isSpace, Bool.or_eq_true, beq_iff_eq] at space
  rcases space with ((rfl | rfl) | rfl) | rfl <;> decide

theorem isInside_of_isSpace {character : Char} (space : Json.isSpace character = true) :
    isInside character = false := by
  simp only [Json.isSpace, Bool.or_eq_true, beq_iff_eq] at space
  rcases space with ((rfl | rfl) | rfl) | rfl <;> decide

theorem isBlank_of_isSpace {character : Char} (space : Json.isSpace character = true) :
    Text.isBlank character = true := by
  simp only [Json.isSpace, Bool.or_eq_true, beq_iff_eq] at space
  rcases space with ((rfl | rfl) | rfl) | rfl <;> decide

theorem spells_spaced (first : Spells (unescape text) tokens)
    (second : Spells (unescape after) more) (spaced : Spaced after) :
    Spells (unescape (text ++ after)) (tokens ++ more) := by
  have border : Token.Border (unescape after) := by
    cases after with
    | nil => simpa [Token.unescape_nil] using Token.Border.nil
    | cons character after =>
        have space := spaced character (by simp)
        rw [Token.unescape_cons (Token.ne_backslash_of_isSpace space)]
        exact .ofSpace space
  rw [unescape_append fun character member => endsEscape_of_isSpace (spaced character member)]
  exact first.append border second

theorem Spaces.not_mem (spaces : Spaces gap) : '<' ∉ gap :=
  fun member => absurd (spaces '<' member) (by decide)

/-- White space in front of something visible is not trimmed to nothing. -/
theorem spaced_trimFinished (spaces : Spaces gap) (nonempty : gap ≠ [])
    (shown : Text.visible text = true) (after : List Char) :
    Spaced (Text.trimFinished (gap ++ text) ++ after) := by
  induction gap with
  | nil => exact absurd rfl nonempty
  | cons character gap induction =>
      have space := spaces character (by simp)
      rw [List.cons_append, Text.trimFinished_cons]
      split
      · next dropped =>
        cases gap with
        | nil =>
            rw [List.nil_append, Text.blankFinished_of_visible shown] at dropped
            simp at dropped
        | cons next gap =>
            exact induction (fun other member => spaces other (by simp [member])) (by simp)
      · intro first member
        obtain rfl : character = first := by simpa using member
        exact space

theorem spaces_trimFinished (spaces : Spaces gap) : Spaces (Text.trimFinished gap) := by
  induction gap with
  | nil => exact spaces
  | cons character gap induction =>
      have behind := induction fun other member => spaces other (by simp [member])
      rw [Text.trimFinished_cons]
      split
      · exact behind
      · intro other member
        rcases List.mem_cons.mp member with rfl | member
        · exact spaces other (by simp)
        · exact behind other member

theorem spaced_strip_of_blank (blank : Text.visible text = false) : Spaced (Text.strip text) := by
  induction text with
  | nil => simp [Text.strip, Spaced]
  | cons character text induction =>
      rw [Text.strip]
      by_cases feed : character = '\n'
      · subst feed
        split
        · split <;> simp [Spaced]
          decide
        · simp at *
      · have parts : Text.isBlank character = true ∧ Text.visible text = false := by
          simpa [Text.visible, feed] using blank
        simpa [feed, parts] using induction parts.2

theorem Spaced.strip (spaced : Spaced text) : Spaced (Text.strip text) := by
  cases text with
  | nil => simp [Text.strip, Spaced]
  | cons character text =>
      have space := spaced character (by simp)
      rw [Text.strip]
      split
      · split
        · simp [Spaced]
        · simpa [Spaced] using space
      · split
        · next dropped =>
          rw [Bool.and_eq_true, Bool.not_eq_true'] at dropped
          exact spaced_strip_of_blank dropped.2
        · simpa [Spaced] using space

end

section

variable {follows behind : List Char → Prop} {text : List Char} {tokens : List Token}
  {groups : List (List Token)}

section

variable (placeholder : Placeholder) (value : List Char)

theorem replace_spaced (spaced : Spaced text) (line : List Char) :
    Spaced (replace placeholder.token.toList value line 0 text) := by
  cases text with
  | nil => simp [replace, Spaced]
  | cons character rest =>
      have space := spaced character (by simp)
      obtain ⟨first, name, token, -⟩ := exists_token placeholder
      have noToken : ¬placeholder.token.toList.isPrefixOf (character :: rest) = true := by
        rw [token]
        intro starts
        obtain ⟨after, equality⟩ := List.isPrefixOf_iff_prefix.mp starts
        obtain ⟨rfl, -⟩ := List.cons.inj equality
        cases space
      rw [replace_cons, if_neg noToken]
      simpa [Spaced] using space

end

variable {placeholder : Placeholder} {value : List Char}

theorem Frame.groups_ne_nil (frame : Frame follows placeholder text groups) : groups ≠ [] := by
  cases frame <;> simp

theorem weave_cons (inner tokens : List Token) (nonempty : groups ≠ []) :
    weave inner (tokens :: groups) = tokens ++ (inner ++ weave inner groups) := by
  cases groups with
  | nil => exact absurd rfl nonempty
  | cons group groups => simp [weave]

theorem strip_of_closed (closed : Text.Closed text) : Text.strip text = Text.trimFinished text := by
  have stripped := Text.strip_append_of_closed closed []
  simpa [Text.strip] using stripped

/-- At the first place of a placeholder the value is put behind the white space. -/
theorem replace_slot (placeholder : Placeholder) (insertable : Insertable behind value tokens)
    {gap line : List Char}
    (free : Free text) (closed : Text.Closed text) (spaces : Spaces gap) (neat : Neat line)
    (onLine : '\n' ∉ line) (rest : List Char) :
    ∃ indentation next, Spaces indentation ∧ '\n' ∉ indentation ∧ Neat next ∧ '\n' ∉ next ∧
      replace placeholder.token.toList value line 0
          (text ++ gap ++ placeholder.token.toList ++ rest) =
        text ++ (gap ++ indent indentation value ++
          replace placeholder.token.toList value next 0 rest) := by
  have outsideGap : ∀ next ∈ gap.head?, isInside next = false := fun next member =>
    isInside_of_isSpace (spaces next (List.mem_of_mem_head? member))
  have outsideToken : ∀ next ∈ (placeholder.token.toList ++ rest).head?,
      isInside next = false := by
    obtain ⟨first, name, token, -⟩ := exists_token placeholder
    simp [token]
    decide
  have neatGap : Neat (continueLine line (text ++ gap)) := by
    rw [continueLine_append]
    refine Neat.spaces ?_ spaces
    by_cases nothing : text = []
    · simpa [nothing, continueLine] using neat
    · exact neat_of_closed closed nothing line
  have onLineGap := feed_not_mem_continueLine onLine (text ++ gap)
  obtain ⟨indentation, inset, onInset, put⟩ := exists_indentation neatGap onLineGap value
  have shown := Text.visible_indent indentation insertable.shown
  have closedValue := Text.closed_indent indentation insertable.closed
  refine ⟨indentation, continueLine (continueLine line (text ++ gap)) (indent indentation value),
    inset, onInset, neat_of_closed closedValue (Text.ne_nil_of_visible shown) _,
    feed_not_mem_continueLine onLineGap _, ?_⟩
  rw [List.append_assoc (text ++ gap),
    replace_append _ _ ((free_append outsideGap).mpr ⟨free, free_of_not_mem spaces.not_mem⟩)
      outsideToken, replace_token, put]
  simp

/-- A filled frame consists of the tokens of the frame and those of the value. -/
theorem replace_frame (insertable : Insertable behind value tokens)
    (spaced : ∀ {rest}, follows rest → Spaced rest)
    (carries : ∀ {rest} (line : List Char), follows rest →
      behind (Text.strip (replace placeholder.token.toList value line 0 rest)))
    (frame : Frame follows placeholder text groups) {line : List Char} (neat : Neat line)
    (onLine : '\n' ∉ line) :
    Free (replace placeholder.token.toList value line 0 text) ∧
      Spells (unescape (Text.strip (replace placeholder.token.toList value line 0 text)))
        (weave tokens groups) := by
  -- Behind each slot the line that the indentation is taken from is neat again, whatever was put
  -- in.
  induction frame generalizing line with
  | last free spells =>
      rw [replace_of_free _ _ free, ← Text.stripLines_eq_strip]
      exact ⟨free, spells⟩
  | @slot text gap rest outer groups free closed spaces separated spells follow frame induction =>
      obtain ⟨indentation, next, inset, onInset, neatNext, onNext, filled⟩ :=
        replace_slot placeholder insertable free closed spaces neat onLine rest
      obtain ⟨freeRest, spellsRest⟩ := induction neatNext onNext
      have further := carries next follow
      have spacedRest := replace_spaced placeholder value (spaced follow) next
      rw [filled]
      generalize replace placeholder.token.toList value next 0 rest = after at *
      have shown := Text.visible_indent indentation insertable.shown
      have closedValue := Text.closed_indent indentation insertable.closed
      have freeBehind : Free (gap ++ indent indentation value ++ after) := by
        rw [List.append_assoc]
        refine free_append_of_not_mem spaces.not_mem ((free_append ?_).mpr
          ⟨free_indent inset.not_mem insertable.free, freeRest⟩)
        exact fun character member => isInside_of_isSpace (spacedRest character member)
      have stripped : Text.strip (text ++ (gap ++ indent indentation value ++ after)) =
          Text.trimFinished text ++ (Text.trimFinished (gap ++ indent indentation value) ++
            Text.strip after) := by
        rw [Text.strip_append_of_closed closed, Text.strip_append_of_closed
          (closedValue.behind (Text.ne_nil_of_visible shown) gap)]
      have spellsBehind : Spells (unescape (Text.trimFinished (gap ++ indent indentation value) ++
          Text.strip after)) (tokens ++ weave tokens groups) := by
        rw [Text.trimFinished_append_of_visible shown, List.append_assoc]
        exact Token.spells_spaces (spaces_trimFinished spaces)
          (insertable.spells inset onInset further spellsRest)
      rw [stripped, weave_cons tokens outer frame.groups_ne_nil]
      rw [Text.stripLines_eq_strip, strip_of_closed closed] at spells
      rcases separated with rfl | nonempty
      · have nothing : outer = [] := by
          have bare : Spells [] outer := by
            simpa [Text.trimFinished, Token.unescape_nil] using spells
          cases bare with
          | nil => rfl
          | token read _ => cases read
        rw [nothing]
        exact ⟨freeBehind, spellsBehind⟩
      · refine ⟨(free_append ?_).mpr ⟨free, freeBehind⟩,
          spells_spaced spells spellsBehind (spaced_trimFinished spaces nonempty shown _)⟩
        intro character member
        refine isInside_of_isSpace (spaces character ?_)
        cases gap with
        | nil => exact absurd rfl nonempty
        | cons first gap =>
            obtain rfl : first = character := by simpa using member
            exact List.mem_cons_self

/-- The query of a filled frame. -/
theorem finish_frame (insertable : Insertable behind value tokens)
    (spaced : ∀ {rest}, follows rest → Spaced rest)
    (carries : ∀ {rest} (line : List Char), follows rest →
      behind (Text.strip (replace placeholder.token.toList value line 0 rest)))
    (frame : Frame follows placeholder text groups) (name : String) :
    ∃ query, ((⟨name, text⟩ : Template).fill placeholder (String.ofList value)).finish = .ok query ∧
      Token.tokens? query.toList = some (weave tokens groups) := by
  obtain ⟨free, spells⟩ := replace_frame insertable spaced carries frame neat_nil (by simp)
  refine ⟨_, finish_of_free (by simpa [fill] using free), ?_⟩
  rw [Token.tokens?_eq_lex]
  simpa [fill] using spells.lex

/-- Behind a value that ends with a token any white space will do. -/
theorem finish_frame_spaced (insertable : Insertable Spaced value tokens)
    (frame : Frame Spaced placeholder text groups) (name : String) :
    ∃ query, ((⟨name, text⟩ : Template).fill placeholder (String.ofList value)).finish = .ok query ∧
      Token.tokens? query.toList = some (weave tokens groups) :=
  finish_frame insertable id (fun line spaced =>
    (replace_spaced placeholder value spaced line).strip) frame name

theorem LineEnd.spaced (ends : LineEnd text) : Spaced text := by
  obtain ⟨rest, rfl, -⟩ := ends
  simp [Spaced]
  decide

theorem inserted_ne_nil (shown : Text.visible value = true) (line : List Char) :
    inserted line value ≠ [] := by
  unfold inserted
  split
  · exact Text.ne_nil_of_visible (Text.visible_indent _ shown)
  · exact Text.ne_nil_of_visible shown

theorem LineEnd.strip_replace (shown : Text.visible value = true) (ends : LineEnd text)
    (line : List Char) :
    (Text.strip (replace placeholder.token.toList value line 0 text)).head? = some '\n' := by
  obtain ⟨rest, rfl, nonempty⟩ := ends
  obtain ⟨first, name, token, -⟩ := exists_token placeholder
  have noToken : ¬placeholder.token.toList.isPrefixOf ('\n' :: rest) = true := by
    rw [token]
    intro starts
    obtain ⟨after, equality⟩ := List.isPrefixOf_iff_prefix.mp starts
    cases equality
  rw [replace_cons, if_neg noToken]
  cases rest with
  | nil => exact absurd rfl nonempty
  | cons character rest =>
      rw [replace_cons]
      split
      · simp [Text.strip, inserted_ne_nil shown]
      · simp [Text.strip]

/-- Behind a value that may be a comment the line has to end. -/
theorem finish_frame_lineEnd
    (insertable : Insertable (fun after => after.head? = some '\n') value tokens)
    (frame : Frame LineEnd placeholder text groups) (name : String) :
    ∃ query, ((⟨name, text⟩ : Template).fill placeholder (String.ofList value)).finish = .ok query ∧
      Token.tokens? query.toList = some (weave tokens groups) :=
  finish_frame insertable LineEnd.spaced
    (fun line ends => ends.strip_replace insertable.shown line) frame name

end

end FacetedQuery.Template
