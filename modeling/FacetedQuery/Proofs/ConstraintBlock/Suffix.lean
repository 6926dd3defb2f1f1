import FacetedQuery.Proofs.ConstraintBlock.Composition

/-!
# The variables of facets

The variables of a facet bear its id and one of a few suffixes, none of which ends in another, so
that facets with different ids have no variable in common.
-/

namespace FacetedQuery.Filter

open Rdf (Variable)

/-- The variables that bear the id of a facet. -/
def Owns (facet : String) (target : Variable) : Prop :=
  ∃ suffix ∈ suffixes, target.name = facet ++ suffix

/-- No suffix ends in another one. -/
theorem eq_of_suffix {first second : String} {one two : String} (member : one ∈ suffixes)
    (memberToo : two ∈ suffixes) (same : first ++ one = second ++ two) : first = second := by
  have lists : first.toList ++ one.toList = second.toList ++ two.toList := by
    simpa using congrArg String.toList same
  have noEnding : ∀ left ∈ suffixes, ∀ right ∈ suffixes,
      left.toList.isSuffixOf right.toList = true → left = right := by decide
  have equal : one = two := by
    rcases List.append_eq_append_iff.mp lists with ⟨more, -, split⟩ | ⟨more, -, split⟩
    · exact (noEnding two memberToo one member
        (List.isSuffixOf_iff_suffix.mpr ⟨more, split.symm⟩)).symm
    · exact noEnding one member two memberToo (List.isSuffixOf_iff_suffix.mpr ⟨more, split.symm⟩)
  subst equal
  exact String.toList_injective (List.append_cancel_right lists)

theorem eq_of_owns {first second : String} {shared : Variable} (owns : Owns first shared)
    (ownsToo : Owns second shared) : first = second := by
  obtain ⟨one, member, name⟩ := owns
  obtain ⟨two, memberToo, nameToo⟩ := ownsToo
  exact eq_of_suffix member memberToo (name.symm.trans nameToo)

section

variable {facetClass : String} {facet : Facet} {target : Variable}

theorem Context.Binds.owns {suffix : String} {bound : Variable}
    (binds : Context.Binds ⟨facetClass, facet, target⟩ suffix bound) (member : suffix ∈ suffixes) :
    Owns facet.id bound :=
  ⟨suffix, member, binds⟩

theorem Context.Binds.ne {one two : String} {first second : Variable}
    (binds : Context.Binds ⟨facetClass, facet, target⟩ one first)
    (bindsToo : Context.Binds ⟨facetClass, facet, target⟩ two second) (different : one ≠ two) :
    first ≠ second := by
  rintro rfl
  exact different
    (by simpa using (show facet.id ++ one = first.name from binds.symm).trans bindsToo)

theorem ne_target {bound : Variable} (apart : ¬Owns facet.id target) (owns : Owns facet.id bound) :
    bound ≠ target := by
  rintro rfl
  exact apart owns

end

end FacetedQuery.Filter
