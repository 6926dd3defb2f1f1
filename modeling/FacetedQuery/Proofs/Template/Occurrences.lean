import FacetedQuery.Proofs.Template.Places

/-!
# Occurrences of a placeholder

A template is made of pieces with the placeholder between them.  A value on one line takes exactly
these places, and nothing is changed in the pieces but the white space at the ends of their lines.
-/

namespace FacetedQuery.Template

variable {token value : List Char}

theorem joinChars_cons (separator piece : List Char) {pieces : List (List Char)}
    (nonempty : pieces ≠ []) :
    Text.joinChars separator (piece :: pieces) =
      piece ++ separator ++ Text.joinChars separator pieces := by
  obtain ⟨next, rest, rfl⟩ := List.exists_cons_of_ne_nil nonempty
  exact joinChars_cons_cons separator piece next rest

theorem joinChars_cons_head (separator : List Char) (character : Char) (piece : List Char)
    (pieces : List (List Char)) : Text.joinChars separator ((character :: piece) :: pieces) =
      character :: Text.joinChars separator (piece :: pieces) := by
  cases pieces <;> rfl

theorem isPrefix_joinChars (separator piece : List Char) (pieces : List (List Char)) :
    piece <+: Text.joinChars separator (piece :: pieces) := by
  cases pieces with
  | nil => exact List.prefix_refl _
  | cons next pieces =>
      rw [joinChars_cons_cons, List.append_assoc]
      exact List.prefix_append _ _

/-- A text is made of pieces that do not hold the token, and a value takes the places between
them. -/
theorem exists_occurrences (nonempty : token ≠ []) (text : List Char) :
    ∃ pieces, pieces ≠ [] ∧ text = Text.joinChars token pieces ∧
      (∀ piece ∈ pieces, ¬token <:+: piece) ∧
      ∀ value, '\n' ∉ value → replace token value [] 0 text = Text.joinChars value pieces := by
  obtain ⟨first, name, rfl⟩ := List.exists_cons_of_ne_nil nonempty
  induction length : text.length using Nat.strongRecOn generalizing text with
  | ind length induction =>
      subst length
      cases text with
      | nil => exact ⟨[[]], by simp, rfl, by simp, fun value _ => rfl⟩
      | cons character rest =>
          by_cases starts : (first :: name).isPrefixOf (character :: rest) = true
          · obtain ⟨after, split⟩ := List.isPrefixOf_iff_prefix.mp starts
            have shorter : after.length < (character :: rest).length := by
              simp only [← split, List.length_append, List.length_cons]
              omega
            obtain ⟨pieces, nonempty, rfl, apart, filled⟩ := induction _ shorter after rfl
            refine ⟨[] :: pieces, by simp, ?_, by simpa using apart, fun value onLine => ?_⟩
            · rw [← split, joinChars_cons _ _ nonempty]
              rfl
            · rw [← split, replace_here, inserted_of_line onLine, replace_line onLine,
                filled value onLine, joinChars_cons _ _ nonempty]
              rfl
          · obtain ⟨pieces, nonempty, isText, apart, filled⟩ :=
              induction rest.length (by simp) rest rfl
            obtain ⟨piece, pieces, rfl⟩ := List.exists_cons_of_ne_nil nonempty
            refine ⟨(character :: piece) :: pieces, by simp, ?_, ?_, fun value onLine => ?_⟩
            · rw [joinChars_cons_head, ← isText]
            · rw [List.forall_mem_cons] at apart ⊢
              refine ⟨fun inside => ?_, apart.2⟩
              rcases List.infix_cons_iff.mp inside with front | inside
              · rw [isText, ← joinChars_cons_head] at starts
                exact starts (List.isPrefixOf_iff_prefix.mpr
                  (front.trans (isPrefix_joinChars _ _ _)))
              · exact apart.1 inside
            · rw [replace_cons, if_neg starts, replace_line onLine, filled value onLine,
                joinChars_cons_head]

/-- Pieces without the white space at the ends of their lines. -/
def stripAround : List (List Char) → List (List Char)
  | [] => []
  | [last] => [Text.strip last]
  | piece :: pieces => Text.trimFinished piece :: stripAround pieces

/-- White space next to a value that shows at both ends is no white space at the end of a line. -/
theorem strip_joinChars (onLine : '\n' ∉ value) (shown : Text.visible value = true)
    (closed : Text.Closed value) (pieces : List (List Char)) :
    Text.strip (Text.joinChars value pieces) = Text.joinChars value (stripAround pieces) := by
  induction pieces with
  | nil => rfl
  | cons piece pieces induction =>
      cases pieces with
      | nil => rfl
      | cons next pieces =>
          have ends : Text.Closed (piece ++ value) := closed.behind (Text.ne_nil_of_visible shown) _
          have more : stripAround (next :: pieces) ≠ [] := by
            cases pieces <;> simp [stripAround]
          have stripped : stripAround (piece :: next :: pieces) =
              Text.trimFinished piece :: stripAround (next :: pieces) := rfl
          rw [joinChars_cons_cons, Text.strip_append_of_closed ends, induction,
            Text.trimFinished_append_of_visible shown, Text.trimFinished_of_line onLine, stripped,
            joinChars_cons _ _ more]

end FacetedQuery.Template
