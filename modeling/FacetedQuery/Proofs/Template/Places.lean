import FacetedQuery.Proofs.Template.Lines

/-!
# Comments in the place of a placeholder

A value that is a comment takes the rest of its line with it.  The tokens of a template that is
filled with one are those in front of the places of the placeholder; the tokens behind a place on
the same line are lost, which they are not if the placeholder is deleted.
-/

namespace FacetedQuery

open Sparql (Token)
open Sparql.Token (Border Spells endsEscape lex lex_comment lex_space unescape unescape_append
  unescape_append_of_plain unescape_cons unescape_nil)

namespace Text

variable {line rest : List Char}

/-- Nothing, or the end of a line and what follows it. -/
def LineRest (text : List Char) : Prop :=
  ∀ character ∈ text.head?, character = '\n'

theorem visible_of_lineRest (onLine : '\n' ∉ line) (ends : LineRest rest) :
    visible (line ++ rest) = !line.all isBlank := by
  induction line with
  | nil =>
      cases rest with
      | nil => rfl
      | cons character rest =>
          obtain rfl := ends character (by simp)
          rfl
  | cons character line induction =>
      simp only [List.mem_cons, not_or] at onLine
      by_cases blank : isBlank character = true
      · simp [visible, blank, Ne.symm onLine.1, induction onLine.2]
      · simp [visible, blank]

/-- Stripping a text trims its first line. -/
theorem strip_line (onLine : '\n' ∉ line) (ends : LineRest rest) :
    strip (line ++ rest) = trimEnd line ++ strip rest := by
  induction line with
  | nil => rfl
  | cons character line induction =>
      simp only [List.mem_cons, not_or] at onLine
      rw [List.cons_append, strip, visible_of_lineRest onLine.2 ends, Bool.not_not,
        induction onLine.2, trimEnd_cons, beq_eq_false_iff_ne.mpr (Ne.symm onLine.1)]
      simp only [Bool.false_eq_true, if_false]
      split
      · next blank =>
        rw [Bool.and_eq_true] at blank
        rw [trimEnd_eq_nil blank.2]
      · rfl

theorem LineRest.strip (ends : LineRest rest) : LineRest (strip rest) := by
  cases rest with
  | nil => exact ends
  | cons character rest =>
      obtain rfl := ends character (by simp)
      simp only [Text.strip, beq_self_eq_true, if_true]
      split <;> simp [LineRest]

end Text

namespace Template

open Text (Closed LineRest strip trimEnd trimFinished)

section

variable {text after gap line rest : List Char} {tokens more : List Token}

/-- A text that starts with white space or with a comment, if it starts with anything. -/
def Parted (text : List Char) : Prop :=
  Spaced text ∨ ∃ body, text = '#' :: ' ' :: body

theorem Parted.endsEscape (parted : Parted text) :
    ∀ character ∈ text.head?, endsEscape character = true := by
  rcases parted with spaced | ⟨body, rfl⟩
  · exact fun character member => endsEscape_of_isSpace (spaced character member)
  · simp
    decide

theorem Parted.border (parted : Parted text) : Border (unescape text) := by
  rcases parted with spaced | ⟨body, rfl⟩
  · cases text with
    | nil => simpa [unescape_nil] using Border.nil
    | cons character text =>
        have space := spaced character (by simp)
        rw [unescape_cons (Token.ne_backslash_of_isSpace space)]
        exact .ofSpace space
  · rw [unescape_cons (by decide), unescape_cons (by decide)]
    exact ⟨by simp; decide, rfl⟩

theorem lex_parted (spells : Spells (unescape text) tokens) (parted : Parted after) :
    lex (unescape (text ++ after)) = (lex (unescape after)).map (tokens ++ ·) := by
  rw [unescape_append parted.endsEscape, spells.lex_append parted.border]

theorem lex_strip_spaces (spaces : Spaces gap) (after : List Char) :
    lex (unescape (strip (gap ++ after))) = lex (unescape (strip after)) := by
  induction gap with
  | nil => rfl
  | cons character gap induction =>
      have space := spaces character (by simp)
      have further := induction fun other member => spaces other (by simp [member])
      have kept : lex (unescape (character :: strip (gap ++ after))) =
          lex (unescape (strip after)) := by
        rw [unescape_cons (Token.ne_backslash_of_isSpace space), lex_space space, further]
      rw [List.cons_append, strip]
      split
      · split
        · next nothing =>
          rw [List.isEmpty_iff] at nothing
          rw [← further, nothing]
          rfl
        · exact kept
      · split
        · exact further
        · exact kept

theorem eq_nil_of_spells_nil (spells : Spells [] tokens) : tokens = [] := by
  cases spells with
  | nil => rfl
  | token read _ => cases read

/-- A text that ends no line, not even by an escape. -/
structure Unbroken (text : List Char) : Prop where
  onLine : '\n' ∉ text
  inside : ∀ character ∈ unescape text, character ≠ '\n' ∧ character ≠ '\r'

/-- The end of a line that consists of the given tokens and maybe a comment. -/
inductive Trails : List Char → List Token → Prop where
  | code {text : List Char} {tokens : List Token} :
      Spells (unescape text) tokens → Trails text tokens
  | remark {text gap body : List Char} {tokens : List Token} :
      Spells (unescape text) tokens → Spaces gap → (text = [] ∨ gap ≠ []) → Unbroken body →
      Trails (text ++ (gap ++ '#' :: body)) tokens

theorem spaced_of_lineRest (ends : LineRest rest) : Spaced rest := by
  intro character member
  rw [ends character member]
  rfl

theorem skipBlank_unended {body : List Char}
    (inside : ∀ character ∈ body, character ≠ '\n' ∧ character ≠ '\r') :
    Token.skipBlank true body = [] := by
  induction body with
  | nil => rfl
  | cons character body induction =>
      obtain ⟨noFeed, noReturn⟩ := inside character (by simp)
      simp only [Token.skipBlank, if_true]
      rw [bne_iff_ne.mpr noFeed, bne_iff_ne.mpr noReturn]
      exact induction fun other member => inside other (by simp [member])

/-- A comment reaches to the end of its line or to that of the text. -/
theorem lex_comment_line {body : List Char} (unbroken : Unbroken body) (ends : LineRest rest) :
    lex (unescape ('#' :: (body ++ rest))) = lex (unescape rest) := by
  have parted : Parted rest := .inl (spaced_of_lineRest ends)
  rw [unescape_cons (by decide), unescape_append parted.endsEscape]
  cases rest with
  | nil =>
      have skipped : Token.skipBlank false ('#' :: unescape body) = [] :=
        skipBlank_unended unbroken.inside
      rw [unescape_nil, List.append_nil, Token.lex_eq, skipped, Token.lex_nil]
  | cons character rest =>
      obtain rfl := ends character (by simp)
      rw [unescape_cons (by decide), lex_comment unbroken.inside (.inl rfl), lex_space rfl]

theorem lex_spaced (spaces : Spaces gap) (after : List Char) :
    lex (unescape (gap ++ after)) = lex (unescape after) := by
  rw [unescape_append_of_plain fun character member =>
    Token.ne_backslash_of_isSpace (spaces character member), Token.lex_spaces spaces]

/-- The end of a line is read by itself. -/
theorem Trails.lex (trails : Trails line tokens) (ends : LineRest rest) :
    Token.lex (unescape (line ++ rest)) = (Token.lex (unescape rest)).map (tokens ++ ·) := by
  cases trails with
  | code spells => exact lex_parted spells (.inl (spaced_of_lineRest ends))
  | @remark text gap body _ spells spaces separated unbroken =>
      have comment : Token.lex (unescape (gap ++ ('#' :: (body ++ rest)))) =
          Token.lex (unescape rest) := by
        rw [lex_spaced spaces, lex_comment_line unbroken ends]
      have split : text ++ (gap ++ '#' :: body) ++ rest =
        text ++ (gap ++ '#' :: (body ++ rest)) := by
        simp
      rw [split]
      rcases separated with rfl | nonempty
      · rw [← comment]
        obtain rfl := eq_nil_of_spells_nil (by simpa [unescape_nil] using spells)
        simp
      · have spaced : Spaced (gap ++ '#' :: (body ++ rest)) := by
          cases gap with
          | nil => exact absurd rfl nonempty
          | cons first gap =>
              intro character member
              obtain rfl : first = character := by simpa using member
              exact spaces first (by simp)
        rw [lex_parted spells (.inl spaced), comment]

end

/-- A template around the places of a placeholder.  Of each pair of token lists the first stands in
front of a place, separated from it or from what follows by white space, and the second behind the
place on the same line, where further places may be. -/
inductive Places (placeholder : Placeholder) :
    List Char → List (List Token × List Token) → Prop where
  | last {text : List Char} {tokens : List Token} :
      Free text → lex (unescape (strip text)) = some tokens →
      Places placeholder text [(tokens, [])]
  | place {text gap rest : List Char} {pieces : List (List Char)} {before behind : List Token}
      {groups : List (List Token × List Token)} :
      Closed text → Spaces gap → (text = [] ∨ Spaced (gap ++ pieces.flatten)) →
      Spells (unescape (trimFinished text)) before →
      pieces ≠ [] → (∀ piece ∈ pieces, Unbroken piece) →
      Trails (trimEnd pieces.flatten) behind →
      Free (text ++ gap ++ pieces.flatten) → LineRest rest →
      Places placeholder rest groups →
      Places placeholder (text ++ gap ++ placeholder.token.toList ++
          (Text.joinChars placeholder.token.toList pieces ++ rest))
        ((before, behind) :: groups)

section

variable {placeholder : Placeholder} {value text gap rest : List Char}
  {pieces : List (List Char)} {groups : List (List Token × List Token)}

theorem inserted_of_line (onLine : '\n' ∉ value) (line : List Char) :
    inserted line value = value := by
  unfold inserted
  rw [Text.indent_of_line onLine, ite_self]

theorem joinChars_cons_cons (separator first second : List Char) (pieces : List (List Char)) :
    Text.joinChars separator (first :: second :: pieces) =
      first ++ separator ++ Text.joinChars separator (second :: pieces) :=
  rfl

theorem joinChars_nil (pieces : List (List Char)) :
    Text.joinChars [] pieces = pieces.flatten := by
  induction pieces with
  | nil => rfl
  | cons piece pieces induction =>
      cases pieces with
      | nil => simp [Text.joinChars]
      | cons second pieces => simpa [Text.joinChars] using induction

theorem Spaced.append {text after : List Char} (spaced : Spaced text) (spacedAfter : Spaced after) :
    Spaced (text ++ after) := by
  cases text with
  | nil => exact spacedAfter
  | cons character text => simpa [Spaced] using spaced

theorem free_of_free_append {text after : List Char} (free : Free (text ++ after)) :
    Free text ∧ Free after := by
  induction text with
  | nil => exact ⟨free_nil, free⟩
  | cons character text induction =>
      rw [List.cons_append, free_cons] at free
      obtain ⟨closed, rest⟩ := free
      obtain ⟨freeText, freeAfter⟩ := induction rest
      exact ⟨free_cons.mpr ⟨fun opens => closed (opens.append after), freeText⟩, freeAfter⟩

theorem free_of_free_flatten (free : Free pieces.flatten) : ∀ piece ∈ pieces, Free piece := by
  intro piece member
  obtain ⟨first, second, rfl⟩ := List.append_of_mem member
  rw [List.flatten_append, List.flatten_cons] at free
  exact (free_of_free_append (free_of_free_append free).2).1

theorem outside_of_lineRest (ends : LineRest rest) :
    ∀ next ∈ rest.head?, isInside next = false := by
  intro next member
  rw [ends next member]
  decide

theorem outside_token (placeholder : Placeholder) (after : List Char) :
    ∀ next ∈ (placeholder.token.toList ++ after).head?, isInside next = false := by
  obtain ⟨first, name, token, -⟩ := exists_token placeholder
  simp [token]
  decide

theorem lineRest_replace (ends : LineRest rest) (line : List Char) :
    LineRest (replace placeholder.token.toList value line 0 rest) := by
  cases rest with
  | nil => exact ends
  | cons character rest =>
      obtain rfl := ends character (by simp)
      have stays := @replace_feed value _ (token_ne_nil placeholder)
        (feed_not_mem_token placeholder) line [] rest
      rw [← List.nil_append ('\n' :: rest), stays]
      simp [Template.replace, LineRest]

/-- The pieces of a line are joined by the value. -/
theorem exists_replace_pieces (onLine : '\n' ∉ value) (ends : LineRest rest)
    (nonempty : pieces ≠ []) (free : ∀ piece ∈ pieces, Free piece) (line : List Char) :
    ∃ next, replace placeholder.token.toList value line 0
        (Text.joinChars placeholder.token.toList pieces ++ rest) =
      Text.joinChars value pieces ++ replace placeholder.token.toList value next 0 rest := by
  induction pieces generalizing line with
  | nil => exact absurd rfl nonempty
  | cons piece pieces induction =>
      have freePiece := free piece (by simp)
      cases pieces with
      | nil => exact ⟨_, replace_append _ _ freePiece (outside_of_lineRest ends) line⟩
      | cons second pieces =>
          obtain ⟨next, further⟩ := induction (by simp)
            (fun other member => free other (by simp [member]))
            (continueLine (continueLine line piece) value)
          refine ⟨next, ?_⟩
          simp only [Text.joinChars, List.append_assoc] at further ⊢
          rw [replace_append _ _ freePiece (outside_token _ _), replace_token,
            inserted_of_line onLine, further]

/-- A value of one line takes every place. -/
theorem exists_replace_place (onLine : '\n' ∉ value) (ends : LineRest rest) (nonempty : pieces ≠ [])
    (free : Free (text ++ gap ++ pieces.flatten)) (line : List Char) :
    ∃ next, replace placeholder.token.toList value line 0
        (text ++ gap ++ placeholder.token.toList ++
          (Text.joinChars placeholder.token.toList pieces ++ rest)) =
      text ++ (gap ++ (value ++ (Text.joinChars value pieces ++
        replace placeholder.token.toList value next 0 rest))) := by
  obtain ⟨freeBefore, freeFlat⟩ := free_of_free_append free
  obtain ⟨next, filled⟩ := @exists_replace_pieces placeholder value rest pieces onLine ends nonempty
    (free_of_free_flatten freeFlat) (continueLine (continueLine line (text ++ gap)) value)
  refine ⟨next, ?_⟩
  rw [List.append_assoc (text ++ gap), replace_append _ _ freeBefore (outside_token _ _),
    replace_token, inserted_of_line onLine, filled]
  simp

/-- The tokens around the places of a deleted placeholder. -/
theorem Places.deleted (places : Places placeholder text groups) (line : List Char) :
    Free (replace placeholder.token.toList [] line 0 text) ∧
      lex (unescape (strip (replace placeholder.token.toList [] line 0 text))) =
        some (groups.flatMap fun group => group.1 ++ group.2) := by
  -- Nothing is put in, so the pieces around a deleted placeholder stay on one line and are read as
  -- one.
  induction places generalizing line with
  | last free read =>
      rw [replace_of_free _ _ free]
      exact ⟨free, by simpa using read⟩
  | @place text gap rest pieces before behind groups closed spaces separated
    spells nonempty unbroken trails free ends _ induction =>
      obtain ⟨next, filled⟩ := @exists_replace_place placeholder [] text gap rest pieces (by simp)
        ends nonempty free line
      obtain ⟨freeRest, readRest⟩ := induction next
      have endsRest := @lineRest_replace placeholder [] rest ends next
      rw [filled]
      generalize replace placeholder.token.toList [] next 0 rest = after at *
      have onLine : '\n' ∉ pieces.flatten := by
        intro member
        obtain ⟨piece, inside, member⟩ := List.mem_flatten.mp member
        exact (unbroken piece inside).onLine member
      have readLine : lex (unescape (strip (gap ++ (pieces.flatten ++ after)))) =
          some (behind ++ groups.flatMap fun group => group.1 ++ group.2) := by
        rw [lex_strip_spaces spaces, Text.strip_line onLine endsRest, trails.lex endsRest.strip,
          readRest]
        rfl
      rw [joinChars_nil, List.nil_append]
      refine ⟨?_, ?_⟩
      · rw [← List.append_assoc, ← List.append_assoc]
        exact (free_append (outside_of_lineRest endsRest)).mpr ⟨free, freeRest⟩
      · rw [Text.strip_append_of_closed closed, List.flatMap_cons, List.append_assoc]
        rcases separated with rfl | spaced
        · obtain rfl := eq_nil_of_spells_nil (by simpa [trimFinished, unescape_nil] using spells)
          exact readLine
        · have spacedLine : Spaced (gap ++ (pieces.flatten ++ after)) := by
            rw [← List.append_assoc]
            exact spaced.append (spaced_of_lineRest endsRest)
          rw [lex_parted spells (.inl spacedLine.strip), readLine]
          rfl

/-- A comment on one line without escapes and placeholders. -/
structure IsNote (note : List Char) : Prop where
  starts : ∃ body, note = '#' :: ' ' :: body
  closed : Closed note
  plain : ∀ character ∈ note, character ≠ '\\' ∧ character ≠ '<' ∧ character ≠ '\n' ∧
    character ≠ '\r'

namespace IsNote

variable {note after : List Char}

theorem onLine (isNote : IsNote note) : '\n' ∉ note :=
  fun member => (isNote.plain _ member).2.2.1 rfl

theorem parted (isNote : IsNote note) (after : List Char) : Parted (note ++ after) := by
  obtain ⟨body, rfl⟩ := isNote.starts
  exact .inr ⟨body ++ after, rfl⟩

theorem outside (isNote : IsNote note) (after : List Char) :
    ∀ next ∈ (note ++ after).head?, isInside next = false := by
  obtain ⟨body, rfl⟩ := isNote.starts
  simp
  decide

theorem free (isNote : IsNote note) (freeAfter : Free after) : Free (note ++ after) :=
  free_append_of_not_mem (fun member => (isNote.plain _ member).2.1 rfl) freeAfter

theorem unescape (isNote : IsNote note) (after : List Char) :
    Token.unescape (note ++ after) = note ++ Token.unescape after :=
  unescape_append_of_plain (fun _ member => (isNote.plain _ member).1) after

/-- Comments between pieces of a line. -/
theorem unbroken (isNote : IsNote note) (nonempty : pieces ≠ [])
    (unbroken : ∀ piece ∈ pieces, Unbroken piece) : Unbroken (Text.joinChars note pieces) := by
  induction pieces with
  | nil => exact absurd rfl nonempty
  | cons piece pieces induction =>
      obtain ⟨onLine, inside⟩ := unbroken piece (by simp)
      cases pieces with
      | nil => exact ⟨onLine, inside⟩
      | cons second pieces =>
          have further := induction (by simp) fun other member => unbroken other (by simp [member])
          refine ⟨by simp [joinChars_cons_cons, onLine, isNote.onLine, further.onLine], ?_⟩
          rw [joinChars_cons_cons, List.append_assoc,
            unescape_append (isNote.parted _).endsEscape, isNote.unescape]
          intro character member
          rcases List.mem_append.mp member with member | member
          · exact inside character member
          · rcases List.mem_append.mp member with member | member
            · exact (isNote.plain character member).2.2
            · exact further.inside character member

theorem free_pieces (isNote : IsNote note) (free : ∀ piece ∈ pieces, Free piece)
    (freeAfter : Free after) (ends : LineRest after) :
    Free (Text.joinChars note pieces ++ after) := by
  induction pieces with
  | nil => exact freeAfter
  | cons piece pieces induction =>
      have freePiece := free piece (by simp)
      cases pieces with
      | nil => exact (free_append (outside_of_lineRest ends)).mpr ⟨freePiece, freeAfter⟩
      | cons second pieces =>
          have further := induction fun other member => free other (by simp [member])
          rw [joinChars_cons_cons, List.append_assoc, List.append_assoc]
          exact (free_append (isNote.outside _)).mpr ⟨freePiece, isNote.free further⟩

/-- A comment takes what follows it on its line. -/
theorem trails (isNote : IsNote note) {line : List Char} (unbroken : Unbroken line) :
    Trails (note ++ line) [] := by
  have plain := isNote.plain
  obtain ⟨body, rfl⟩ := isNote.starts
  have inside : ∀ character ∈ ' ' :: body, character ≠ '\\' ∧ character ≠ '<' ∧
      character ≠ '\n' ∧ character ≠ '\r' := fun character member =>
    plain character (List.mem_cons_of_mem _ member)
  have split : Token.unescape (' ' :: body ++ line) = ' ' :: body ++ Token.unescape line :=
    unescape_append_of_plain (fun character member => (inside character member).1) line
  refine @Trails.remark [] [] (' ' :: body ++ line) [] (by simpa [unescape_nil] using Spells.nil)
    (by simp [Spaces]) (.inl rfl) ⟨?_, ?_⟩
  · intro member
    rcases List.mem_append.mp member with member | member
    · exact (inside _ member).2.2.1 rfl
    · exact unbroken.onLine member
  · intro character member
    rw [split] at member
    rcases List.mem_append.mp member with member | member
    · exact (inside character member).2.2
    · exact unbroken.inside character member

end IsNote

theorem endsEscape_of_isBlank {character : Char} (blank : Text.isBlank character = true) :
    endsEscape character = true := by
  simp only [Text.isBlank, Bool.or_eq_true, Bool.and_eq_true, decide_eq_true_eq,
    beq_iff_eq] at blank
  have noHex : Json.hexValue? character = none := by
    unfold Json.hexValue?
    simp only [Bool.and_eq_true, decide_eq_true_eq]
    rw [if_neg (by omega), if_neg (by omega), if_neg (by omega)]
  have noLetter : character ≠ 'u' ∧ character ≠ 'U' ∧ character ≠ '\\' := by
    refine ⟨?_, ?_, ?_⟩ <;>
      · rintro rfl
        revert blank
        decide
  simp [endsEscape, noHex, noLetter]

theorem Unbroken.trimEnd {line : List Char} (unbroken : Unbroken line) :
    Unbroken (Text.trimEnd line) := by
  have split : line = Text.trimEnd line ++ (line.reverse.takeWhile Text.isBlank).reverse := by
    rw [Text.trimEnd, Text.trimStart, ← List.reverse_append, List.takeWhile_append_dropWhile,
      List.reverse_reverse]
  have blanks : ∀ character ∈ (line.reverse.takeWhile Text.isBlank).reverse,
      Text.isBlank character = true := fun character member =>
    List.all_eq_true.mp List.all_takeWhile character (List.mem_reverse.mp member)
  have parts := unescape_append (fun character member =>
    endsEscape_of_isBlank (blanks character (List.mem_of_mem_head? member))) (Text.trimEnd line)
  refine ⟨fun member => unbroken.onLine ?_, fun character member => unbroken.inside character ?_⟩
  · rw [split]
    exact List.mem_append_left _ member
  · rw [split, parts]
    exact List.mem_append_left _ member

/-- The tokens behind the places of a placeholder are lost if its value is a comment. -/
theorem Places.commented {note : List Char} (isNote : IsNote note)
    (places : Places placeholder text groups) (line : List Char) :
    Free (replace placeholder.token.toList note line 0 text) ∧
      lex (unescape (strip (replace placeholder.token.toList note line 0 text))) =
        some (groups.flatMap (·.1)) := by
  -- The comment runs to the end of its line, and the pieces of a place are on that line.
  induction places generalizing line with
  | last free read =>
      rw [replace_of_free _ _ free]
      exact ⟨free, by simpa using read⟩
  | @place text gap rest pieces before behind groups closed spaces separated
    spells nonempty unbroken trails free ends _ induction =>
      obtain ⟨next, filled⟩ := @exists_replace_place placeholder note text gap rest pieces
        isNote.onLine ends nonempty free line
      obtain ⟨freeRest, readRest⟩ := induction next
      have endsRest := @lineRest_replace placeholder note rest ends next
      rw [filled]
      generalize replace placeholder.token.toList note next 0 rest = after at *
      have broken := isNote.unbroken nonempty unbroken
      have trimmed : strip (note ++ (Text.joinChars note pieces ++ after)) =
          note ++ (trimEnd (Text.joinChars note pieces) ++ strip after) := by
        rw [Text.strip_append_of_closed isNote.closed, Text.trimFinished_of_line isNote.onLine,
          Text.strip_line broken.onLine endsRest]
      have readLine : lex (unescape (strip (gap ++ (note ++
          (Text.joinChars note pieces ++ after))))) = some (groups.flatMap (·.1)) := by
        rw [lex_strip_spaces spaces, trimmed, ← List.append_assoc,
          (isNote.trails broken.trimEnd).lex endsRest.strip, readRest]
        rfl
      obtain ⟨freeBefore, freeFlat⟩ := free_of_free_append free
      refine ⟨?_, ?_⟩
      · have freeLine := isNote.free_pieces (free_of_free_flatten freeFlat) freeRest endsRest
        rw [← List.append_assoc]
        exact (free_append (isNote.outside _)).mpr ⟨freeBefore, isNote.free freeLine⟩
      · have parted : Parted (strip (gap ++ (note ++ (Text.joinChars note pieces ++ after)))) := by
          cases gap with
          | nil =>
              rw [List.nil_append, trimmed]
              exact isNote.parted _
          | cons first gap =>
              have spaced : Spaced
                (first :: gap ++ (note ++ (Text.joinChars note pieces ++ after))) := by
                intro character member
                obtain rfl : first = character := by simpa using member
                exact spaces first (by simp)
              exact .inl spaced.strip
        rw [Text.strip_append_of_closed closed, List.flatMap_cons,
          lex_parted spells parted, readLine]
        rfl

/-- What is put in on one line does not depend on what stands before it. -/
theorem replace_line {token : List Char} (onLine : '\n' ∉ value) (line : List Char) (passed : Nat)
    (text : List Char) : replace token value line passed text = replace token value
      [] passed text := by
  induction text generalizing line passed with
  | nil => cases passed <;> rfl
  | cons character text induction =>
      cases passed with
      | succ passed => exact induction line passed
      | zero =>
          rw [replace_cons, replace_cons, inserted_of_line onLine, inserted_of_line onLine,
            induction, induction (continueLine [] value), induction (continueLine line _),
            induction (continueLine [] [character])]

/-- A value that starts with a new character completes nothing that stands before it. -/
theorem prefix_of_prefix_replace {token start body : List Char} {first : Char}
    (onLine : '\n' ∉ first :: body) (absent : first ∉ start) {text line : List Char}
    (starts : start <+: replace token (first :: body) line 0 text) : start <+: text := by
  induction start generalizing text line with
  | nil => exact List.nil_prefix
  | cons character start induction =>
      simp only [List.mem_cons, not_or] at absent
      cases text with
      | nil => exact absurd (List.prefix_nil.mp starts) (by simp)
      | cons next text =>
          rw [replace_cons, inserted_of_line onLine] at starts
          split at starts
          · exact absurd (List.cons_prefix_cons.mp starts).1.symm absent.1
          · obtain ⟨rfl, further⟩ := List.cons_prefix_cons.mp starts
            exact List.cons_prefix_cons.mpr ⟨rfl, induction absent.2 further⟩

theorem replace_iri (iri : Rdf.Iri) (line after : List Char) :
    replace placeholder.token.toList value line 0 (iri.render.toList ++ after) =
      iri.render.toList ++ replace placeholder.token.toList value
        (continueLine line iri.render.toList) 0 after := by
  obtain ⟨first, name, token, upper, inside⟩ := exists_token placeholder
  have enclosable := iri.enclosable
  have noClosing : '>' ∉ iri.text.toList := fun member =>
    absurd (enclosable '>' member) (by decide)
  have noOpening : '<' ∉ iri.text.toList := fun member =>
    absurd (enclosable '<' member) (by decide)
  have isName : ∀ character ∈ first :: name, isNameChar character = true := by
    simpa [isNameChar_of_isUpper upper] using inside
  have rendered : iri.render.toList = '<' :: (iri.text.toList ++ ['>']) := by
    simp [Rdf.Iri.render]
  have noToken : ¬placeholder.token.toList.isPrefixOf
      ('<' :: ((iri.text.toList ++ ['>']) ++ after)) = true := by
    intro starts
    rw [token, List.isPrefixOf_iff_prefix, List.cons_prefix_cons, List.append_assoc] at starts
    have names := eq_of_prefix_close (fun member => absurd (isName _ member) (by decide))
      noClosing starts.2
    have colon : ':' ∈ first :: name := names ▸ iri.colon_mem
    exact absurd (isName ':' colon) (by decide)
  rw [rendered, List.cons_append, replace_cons, if_neg noToken,
    replace_plain (by simpa using noOpening), ← continueLine_cons, ← List.cons_append]

end

end Template

end FacetedQuery
