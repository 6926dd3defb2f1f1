import FacetedQuery.Proofs.Template.Frame

/-!
# Templates line by line

No placeholder goes beyond a line, so a template is filled line by line, whatever the values are.
The finished text consists of the tokens of its lines one after another.
-/

namespace FacetedQuery

namespace Text

variable {text rest : List Char}

theorem blankFinished_append_feed (text rest : List Char) :
    blankFinished (text ++ '\n' :: rest) = blankFinished (text ++ ['\n']) := by
  induction text with
  | nil => rfl
  | cons character text induction => simp [blankFinished, induction]

theorem visible_append_feed (text rest : List Char) :
    visible (text ++ '\n' :: rest) = !blankFinished (text ++ ['\n']) := by
  induction text with
  | nil => rfl
  | cons character text induction =>
      by_cases blank : isBlank character = true
      · simp [visible, blankFinished, blank, induction, bne]
      · have noFeed := ne_feed_of_shown (by simpa using blank)
        simp [visible, blankFinished, blank, noFeed]

/-- What stands behind the end of a line does not matter to what is trimmed in front of it. -/
theorem trimFinished_append_feed (text rest : List Char) :
    trimFinished (text ++ '\n' :: rest) = trimFinished (text ++ ['\n']) ++ trimFinished rest := by
  induction text with
  | nil => rfl
  | cons character text induction =>
      simp only [List.cons_append, trimFinished_cons, blankFinished_append_feed text rest,
        induction]
      split <;> rfl

theorem strip_append_feed (text : List Char) (more : rest ≠ []) :
    strip (text ++ '\n' :: rest) = trimFinished (text ++ ['\n']) ++ strip rest := by
  induction text with
  | nil =>
      cases rest with
      | nil => exact absurd rfl more
      | cons character rest => simp [strip, trimFinished]
  | cons character text induction =>
      by_cases feed : character = '\n'
      · subst feed
        simp [strip, trimFinished_cons, induction]
      · simp only [List.cons_append, strip, trimFinished_cons, visible_append_feed, Bool.not_not,
          induction, beq_iff_eq, feed, if_false, bne_iff_ne.mpr feed, Bool.true_and]
        split <;> rfl

theorem prefix_append_cons {start : List Char} {border : Char} (absent : border ∉ start) :
    start <+: text ++ border :: rest ↔ start <+: text := by
  induction start generalizing text with
  | nil => simp
  | cons first start induction =>
      simp only [List.mem_cons, not_or] at absent
      cases text with
      | nil => simp [List.cons_prefix_cons, Ne.symm absent.1]
      | cons character text => simp [List.cons_prefix_cons, induction absent.2]

end Text

namespace Template

open Sparql (Token)
open Sparql.Token (Spelled Spells spells_space unescape)

section

variable {placeholder other : Placeholder} {value line before after : List Char}

theorem replace_feed {token : List Char} (nonempty : token ≠ []) (onLine : '\n' ∉ token)
    (line text rest : List Char) :
    replace token value line 0 (text ++ '\n' :: rest) =
      replace token value line 0 text ++ '\n' :: replace token value [] 0 rest := by
  -- What is passed over belongs to a token, which does not go beyond the line.
  suffices passing : ∀ passed ≤ text.length,
      replace token value line passed (text ++ '\n' :: rest) =
        replace token value line passed text ++ '\n' :: replace token value [] 0 rest from
    passing 0 (Nat.zero_le _)
  induction text generalizing line with
  | nil =>
      intro passed few
      obtain rfl : passed = 0 := Nat.le_zero.mp few
      have noToken : ¬token.isPrefixOf ('\n' :: rest) = true := fun starts => by
        have nothing := (Text.prefix_append_cons onLine).mp
          (show token <+: [] ++ '\n' :: rest from List.isPrefixOf_iff_prefix.mp starts)
        exact nonempty (List.prefix_nil.mp nothing)
      rw [List.nil_append, replace_cons, if_neg noToken]
      rfl
  | cons character text induction =>
      intro passed few
      cases passed with
      | succ passed => exact induction line passed (by simpa using few)
      | zero =>
          have same : token.isPrefixOf (character :: (text ++ '\n' :: rest)) =
              token.isPrefixOf (character :: text) := by
            rw [Bool.eq_iff_iff, List.isPrefixOf_iff_prefix, List.isPrefixOf_iff_prefix,
              ← List.cons_append, Text.prefix_append_cons onLine]
          rw [List.cons_append, replace_cons, replace_cons, same]
          split
          · next starts =>
            have fits := (List.isPrefixOf_iff_prefix.mp starts).length_le
            rw [induction _ _ (by simp at fits; omega), List.append_assoc]
          · rw [induction _ 0 (Nat.zero_le _), List.cons_append]

theorem feed_not_mem_token (placeholder : Placeholder) : '\n' ∉ placeholder.token.toList := by
  cases placeholder <;> decide

theorem token_ne_nil (placeholder : Placeholder) : placeholder.token.toList ≠ [] := by
  obtain ⟨first, name, token, -⟩ := exists_token placeholder
  simp [token]

/-- Text without an opening bracket stays. -/
theorem replace_plain {text : List Char} (plain : '<' ∉ text) (line after : List Char) :
    replace placeholder.token.toList value line 0 (text ++ after) =
      text ++ replace placeholder.token.toList value (continueLine line text) 0 after := by
  obtain ⟨first, name, token, -⟩ := exists_token placeholder
  induction text generalizing line with
  | nil => rfl
  | cons character text induction =>
      simp only [List.mem_cons, not_or] at plain
      have noToken : ¬placeholder.token.toList.isPrefixOf (character :: (text ++ after)) =
        true := by
        simp [token, plain.1]
      rw [List.cons_append, replace_cons, if_neg noToken, induction plain.2, ← continueLine_cons,
        List.cons_append]

theorem token_injective (same : placeholder.token.toList = other.token.toList) :
    placeholder = other := by
  cases placeholder <;> cases other <;> first | rfl | exact absurd same (by decide)

/-- Behind a bracket names are compared up to their closing bracket. -/
theorem eq_of_prefix_close {name another rest : List Char} (inside : '>' ∉ name)
    (insideOther : '>' ∉ another) (starts : name ++ ['>'] <+: another ++ '>' :: rest) :
    name = another := by
  induction name generalizing another with
  | nil =>
      cases another with
      | nil => rfl
      | cons character another =>
          obtain ⟨rfl, -⟩ := List.cons_prefix_cons.mp starts
          simp at insideOther
  | cons first name induction =>
      simp only [List.mem_cons, not_or] at inside
      cases another with
      | nil => exact absurd (List.cons_prefix_cons.mp starts).1.symm inside.1
      | cons character another =>
          simp only [List.mem_cons, not_or] at insideOther
          obtain ⟨rfl, further⟩ := List.cons_prefix_cons.mp starts
          rw [induction inside.2 insideOther.2 further]

/-- Another placeholder stays. -/
theorem replace_other (apart : other ≠ placeholder) (line after : List Char) :
    replace placeholder.token.toList value line 0 (other.token.toList ++ after) =
      other.token.toList ++ replace placeholder.token.toList value
        (continueLine line other.token.toList) 0 after := by
  obtain ⟨first, name, token, upper, inside⟩ := exists_token placeholder
  obtain ⟨firstOther, nameOther, tokenOther, upperOther, insideOther⟩ := exists_token other
  have isName : ∀ {first : Char} {name : List Char}, first.isUpper = true →
      (∀ character ∈ name, isNameChar character = true) →
      ∀ character ∈ first :: name, isNameChar character = true := fun upper inside => by
    simpa [isNameChar_of_isUpper upper] using inside
  have noToken : ¬placeholder.token.toList.isPrefixOf
      ('<' :: ((firstOther :: nameOther ++ ['>']) ++ after)) = true := fun starts => by
    rw [token, List.isPrefixOf_iff_prefix, List.cons_prefix_cons, List.append_assoc] at starts
    have names := eq_of_prefix_close
      (fun member => absurd (isName upper inside _ member) (by decide))
      (fun member => absurd (isName upperOther insideOther _ member) (by decide)) starts.2
    exact apart (token_injective (by rw [token, tokenOther, names]))
  have noBracket : '<' ∉ firstOther :: nameOther ++ ['>'] := fun member => by
    rcases List.mem_append.mp member with member | member
    · exact absurd (isName upperOther insideOther _ member) (by decide)
    · exact absurd (List.mem_singleton.mp member) (by decide)
  rw [tokenOther, List.cons_append, replace_cons, if_neg noToken,
    replace_plain noBracket, ← continueLine_cons, ← List.cons_append]

end

/-- Fills placeholders one after another. -/
def fillAll (fills : List (Placeholder × List Char)) (text : List Char) : List Char :=
  fills.foldl (fun text fill => replace fill.1.token.toList fill.2 [] 0 text) text

section

variable {fills firsts lasts : List (Placeholder × List Char)} {placeholder : Placeholder}
  {value before after text rest : List Char}

theorem fillAll_nil (text : List Char) : fillAll [] text = text :=
  rfl

theorem fillAll_fill (fills : List (Placeholder × List Char)) (template : Template)
    (placeholder : Placeholder) (value : String) :
    fillAll fills (template.fill placeholder value).text =
      fillAll ((placeholder, value.toList) :: fills) template.text :=
  rfl

theorem fillAll_feed (fills : List (Placeholder × List Char)) (text rest : List Char) :
    fillAll fills (text ++ '\n' :: rest) = fillAll fills text ++ '\n' :: fillAll fills rest := by
  induction fills generalizing text rest with
  | nil => rfl
  | cons fill fills induction =>
      unfold fillAll at induction ⊢
      rw [List.foldl_cons, replace_feed (token_ne_nil _) (feed_not_mem_token _), induction]
      rfl

theorem fillAll_of_free (free : Free text) (fills : List (Placeholder × List Char)) :
    fillAll fills text = text := by
  induction fills with
  | nil => rfl
  | cons fill fills induction =>
      unfold fillAll at induction ⊢
      rw [List.foldl_cons, replace_of_free _ _ free, induction]

/-- The first value for a placeholder takes its place. -/
theorem fillAll_line (apart : ∀ fill ∈ firsts, placeholder ≠ fill.1) (plainBefore : '<' ∉ before)
    (plainAfter : '<' ∉ after) :
    fillAll (firsts ++ (placeholder, value) :: lasts)
        (before ++ (placeholder.token.toList ++ after)) =
      fillAll lasts (before ++ (inserted (continueLine [] before) value ++ after)) := by
  induction firsts with
  | nil =>
      unfold fillAll
      rw [List.nil_append, List.foldl_cons, replace_plain plainBefore, replace_token,
        replace_of_free _ _ (free_of_not_mem plainAfter)]
  | cons fill firsts induction =>
      have further := induction fun other member => apart other (by simp [member])
      unfold fillAll at further ⊢
      have stays := @replace_other fill.1 placeholder fill.2 (apart fill (by simp))
        (continueLine [] before) after
      rw [List.cons_append, List.foldl_cons, replace_plain plainBefore, stays,
        replace_of_free _ _ (free_of_not_mem plainAfter), further]

theorem continueLine_of_line (onLine : '\n' ∉ text) (line : List Char) :
    continueLine line text = text.reverse ++ line := by
  induction text generalizing line with
  | nil => rfl
  | cons character text induction =>
      simp only [List.mem_cons, not_or] at onLine
      rw [continueLine_cons, induction onLine.2]
      simp [continueLine, Ne.symm onLine.1]

theorem fillAll_slot (apart : ∀ fill ∈ firsts, placeholder ≠ fill.1) (spaces : Spaces before)
    (onLine : '\n' ∉ before) :
    fillAll (firsts ++ (placeholder, value) :: lasts) (before ++ placeholder.token.toList) =
      fillAll lasts (before ++ indent before value) := by
  have line := @fillAll_line firsts lasts placeholder value before [] apart spaces.not_mem
    (by simp)
  have blank : before.all Text.isBlank = true :=
    List.all_eq_true.mpr fun character member => isBlank_of_isSpace (spaces character member)
  simpa [continueLine_of_line onLine, inserted, blank] using line

theorem fillAll_inline (apart : ∀ fill ∈ firsts, placeholder ≠ fill.1) (plainBefore : '<' ∉ before)
    (plainAfter : '<' ∉ after) (onLine : '\n' ∉ value)
    (free : Free (before ++ (value ++ after))) :
    fillAll (firsts ++ (placeholder, value) :: lasts)
        (before ++ (placeholder.token.toList ++ after)) = before ++ (value ++ after) := by
  have same : inserted (continueLine [] before) value = value := by
    unfold inserted
    rw [Text.indent_of_line onLine, ite_self]
  rw [fillAll_line apart plainBefore plainAfter, same, fillAll_of_free free]

end

/-- Complete lines that consist of the given tokens, whatever follows them. -/
structure Lays (text : List Char) (tokens : List Token) : Prop where
  free : Free text
  spells : ∀ {after : List Char} {more : List Token}, Spells (unescape after) more →
    Spells (unescape (Text.trimFinished (text ++ ['\n']) ++ after)) (tokens ++ more)

namespace Lays

variable {text rest : List Char} {tokens more : List Token}

theorem append (first : Lays text tokens) (second : Lays rest more) :
    Lays (text ++ '\n' :: rest) (tokens ++ more) where
  free := (free_append (by simp; decide)).mpr
    ⟨first.free, (free_cons_of_ne (by decide)).mpr second.free⟩
  spells further := by
    rw [List.append_assoc, List.cons_append, Text.trimFinished_append_feed, List.append_assoc,
      List.append_assoc]
    exact first.spells (second.spells further)

theorem ofTrimmed (free : Free text) (closed : Text.Closed text)
    (spells : ∀ {after : List Char} {more : List Token}, after.head? = some '\n' →
      Spells (unescape after) more →
      Spells (unescape (Text.trimFinished text ++ after)) (tokens ++ more)) :
    Lays text tokens where
  free := free
  spells further := by
    rw [Text.trimFinished_append_of_closed closed, List.append_assoc]
    exact spells rfl (spells_space rfl further)

theorem line (spelled : Spelled text tokens) (closed : Text.Closed text) : Lays text tokens := by
  refine ofTrimmed spelled.free closed fun {after} _ feed further => ?_
  rw [Text.trimFinished_of_line spelled.line]
  exact spells_spaced spelled.spells further (by simp [Spaced, feed]; decide)

theorem blank (spaces : Spaces text) (onLine : '\n' ∉ text) : Lays text [] where
  free := free_of_not_mem spaces.not_mem
  spells further := by
    have nothing : Text.trimEnd text = [] := Text.trimEnd_eq_nil
      (List.all_eq_true.mpr fun character member => isBlank_of_isSpace (spaces character member))
    rw [Text.trimFinished_feed onLine, nothing]
    exact spells_space rfl further

/-- A value with an indentation, whose lines are indented in the same way. -/
theorem value (insertable : Insertable (fun after => after.head? = some '\n') text tokens)
    (spaces : Spaces rest) (onLine : '\n' ∉ rest) :
    Lays (rest ++ indent rest text) tokens := by
  have shown := Text.visible_indent rest insertable.shown
  refine ofTrimmed
    (free_append_of_not_mem spaces.not_mem (free_indent spaces.not_mem insertable.free))
    ((Text.closed_indent rest insertable.closed).behind (Text.ne_nil_of_visible shown) rest)
    fun feed further => ?_
  rw [Text.trimFinished_append_of_visible shown, List.append_assoc]
  exact Token.spells_spaces (spaces_trimFinished spaces)
    (insertable.spells spaces onLine feed further)

end Lays

end Template

end FacetedQuery
