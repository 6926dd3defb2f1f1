import FacetedQuery.Proofs.Template.Placeholder

/-!
# Filling templates

Filling leaves a text without placeholders as it is and puts the value, with its indentation, at the
place of a placeholder.  A text that holds none is finished by removing white space from the ends of
its lines.
-/

namespace FacetedQuery.Template

theorem exists_token (placeholder : Placeholder) :
    ∃ first name, placeholder.token.toList = '<' :: (first :: name ++ ['>']) ∧
      first.isUpper = true ∧ ∀ character ∈ name, isNameChar character = true := by
  refine ⟨placeholder.name.toList.headD 'A', placeholder.name.toList.tail, ?_, ?_, ?_⟩ <;>
    cases placeholder <;> decide

theorem opensPlaceholder_of_token {placeholder : Placeholder} {text : List Char}
    (starts : placeholder.token.toList.isPrefixOf text = true) : OpensPlaceholder text := by
  obtain ⟨first, name, token, upper, inside⟩ := exists_token placeholder
  obtain ⟨rest, rfl⟩ := List.isPrefixOf_iff_prefix.mp starts
  exact ⟨first, name, rest, by simp [token], upper, inside⟩

theorem continueLine_append (line text more : List Char) :
    continueLine line (text ++ more) = continueLine (continueLine line text) more :=
  List.foldl_append

theorem continueLine_cons (line : List Char) (character : Char) (text : List Char) :
    continueLine line (character :: text) = continueLine (continueLine line [character]) text :=
  continueLine_append line [character] text

theorem replace_cons (token value line : List Char) (character : Char) (rest : List Char) :
    replace token value line 0 (character :: rest) =
      if token.isPrefixOf (character :: rest) then
        inserted line value ++
          replace token value (continueLine line (inserted line value)) (token.length - 1) rest
      else character :: replace token value (continueLine line [character]) 0 rest := by
  rw [replace]

variable (placeholder : Placeholder) (value : List Char)

/-- What holds no placeholder stays. -/
theorem replace_append {text after : List Char} (free : Free text)
    (outside : ∀ next ∈ after.head?, isInside next = false) (line : List Char) :
    replace placeholder.token.toList value line 0 (text ++ after) =
      text ++ replace placeholder.token.toList value (continueLine line text) 0 after := by
  induction text generalizing line with
  | nil => rfl
  | cons character text induction =>
      obtain ⟨closed, rest⟩ := free_cons.mp free
      have noToken : ¬placeholder.token.toList.isPrefixOf (character :: (text ++ after)) = true :=
        fun starts => closed ((opensPlaceholder_of_token starts).of_append outside)
      rw [List.cons_append, replace_cons, if_neg noToken, induction rest, ← continueLine_cons,
        List.cons_append]

theorem replace_of_free {text : List Char} (free : Free text) (line : List Char) :
    replace placeholder.token.toList value line 0 text = text := by
  have replaced := replace_append placeholder value free
    (show ∀ next ∈ ([] : List Char).head?, isInside next = false by simp) line
  simpa [replace] using replaced

theorem replace_passed (token line passed after : List Char) :
    replace token value line passed.length (passed ++ after) =
      replace token value line 0 after := by
  induction passed with
  | nil => rfl
  | cons character passed induction => exact induction

theorem replace_here (first : Char) (name line after : List Char) :
    replace (first :: name) value line 0 (first :: name ++ after) =
      inserted line value ++
        replace (first :: name) value (continueLine line (inserted line value)) 0 after := by
  have starts : (first :: name).isPrefixOf (first :: (name ++ after)) = true :=
    List.isPrefixOf_iff_prefix.mpr (List.prefix_append _ _)
  have passed := replace_passed value (first :: name)
    (continueLine line (inserted line value)) name after
  rw [List.cons_append, replace_cons, if_pos starts, ← passed]
  rfl

theorem replace_token (line after : List Char) :
    replace placeholder.token.toList value line 0 (placeholder.token.toList ++ after) =
      inserted line value ++
        replace placeholder.token.toList value
          (continueLine line (inserted line value)) 0 after := by
  obtain ⟨first, name, token, -, -⟩ := exists_token placeholder
  rw [token]
  exact replace_here value '<' (first :: name ++ ['>']) line after

theorem finish_eq_ok {template : Template} {body : String} :
    template.finish = .ok body ↔
      Free template.text ∧ body = String.ofList (Text.strip template.text) := by
  unfold finish Free
  rw [Text.stripLines_eq_strip]
  split
  · next name found => simp [found]
  · next found => simp [found, eq_comm]

theorem finish_of_free {template : Template} (free : Free template.text) :
    template.finish = .ok (String.ofList (Text.strip template.text)) :=
  finish_eq_ok.mpr ⟨free, rfl⟩

/-- A filled template whose lines end without white space is finished as it stands. -/
theorem finish_of_stripped {template : Template} {body : String}
    (filled : template.text = body.toList) (free : Free body.toList)
    (stripped : Text.strip body.toList = body.toList) : template.finish = .ok body := by
  refine finish_eq_ok.mpr ?_
  rw [filled, stripped, String.ofList_toList]
  exact ⟨free, rfl⟩

end FacetedQuery.Template
