import FacetedQuery.Proofs.ConstraintBlock.Meaning
import FacetedQuery.Proofs.Portal.Capture

/-!
# Facets keep apart

The variables of what a constraint becomes are its target and the id of its facet with a few
suffixes.  No suffix is the end of another one, so that facets with different ids have no variable
in common beside the target.  All suffixes consist of letters: an id that makes a variable with one
of them makes a variable with each.
-/

namespace FacetedQuery

open Clause (Expression Pattern)
open Rdf (Variable)

namespace Clause.Pattern

mutual

/-- The variables of a pattern, those of its conditions included. -/
def mentioned : Pattern → List Variable
  | .triple subject _ object => subject.mentioned ++ object.mentioned
  | .values target _ => [target]
  | .optional elements => listMentioned elements
  | .filter condition => condition.mentioned

def listMentioned : List Pattern → List Variable
  | [] => []
  | element :: rest => element.mentioned ++ listMentioned rest

end

theorem listMentioned_append (first second : List Pattern) :
    listMentioned (first ++ second) = listMentioned first ++ listMentioned second := by
  induction first with
  | nil => rfl
  | cons element first induction => simp [listMentioned, induction]

theorem listMentioned_filters (conditions : List Expression) :
    listMentioned (conditions.map .filter) = conditions.flatMap Expression.mentioned := by
  induction conditions with
  | nil => rfl
  | cons condition conditions induction => simp [listMentioned, mentioned, induction]

end Clause.Pattern

namespace Filter

open Clause.Pattern (listMentioned listMentioned_append listMentioned_filters)

variable {facetClass : String} {facet : Facet} {target shared : Variable} {value : FilterValue}
  {patterns : List Pattern}

theorem mentioned_overlap {start stop : Variable} {min max : Option Calendar.Date}
    (member : shared ∈ (Expression.all? (overlapConditions start stop min max)).toList.flatMap
      Expression.mentioned) : shared = start ∨ shared = stop := by
  obtain ⟨condition, inside, mentioned⟩ := List.mem_flatMap.mp member
  obtain ⟨part, partOf, reads⟩ := Expression.mentioned_all? inside mentioned
  simp only [overlapConditions, List.mem_append, Option.mem_toList,
    Option.map_eq_some_iff] at partOf
  rcases partOf with ⟨date, -, rfl⟩ | ⟨date, -, rfl⟩
  · simpa [Expression.mentioned, Expression.listMentioned, dateLiteral] using reads
  · simpa [Expression.mentioned, Expression.listMentioned, dateLiteral, or_comm] using reads

theorem listMentioned_location (located latitude longitude : Variable) (paths : SpatialPaths)
    (corners : GeoBox) : ∀ shared,
      shared ∈ listMentioned (ofLocation located latitude longitude paths corners) ↔
        shared = located ∨ shared = latitude ∨ shared = longitude := by
  intro shared
  simp [ofLocation, between, Pattern.link, listMentioned, Pattern.mentioned, Clause.Node.mentioned,
    Expression.mentioned]
  tauto

/-- The variables of the patterns of a facet are their target, and one for each suffix that the
value needs. -/
theorem mem_listMentioned_patterns
    (made : Filter.patterns facetClass facet target value = .ok patterns) :
    shared ∈ listMentioned patterns ↔
      shared = target ∨ ∃ suffix ∈ value.suffixes facet, shared.name = facet.id ++ suffix := by
  have named : ∀ {suffix : String} {fresh : Variable},
      Context.Binds ⟨facetClass, facet, target⟩ suffix fresh →
        (shared.name = facet.id ++ suffix ↔ shared = fresh) := fun binds =>
    ⟨fun same => Rdf.Variable.ext_name (same.trans binds.symm), fun same => same ▸ binds⟩
  cases patterns_eq_ok.mp made with
  | exact _ binds =>
      simp [ofExactUris, Pattern.link, listMentioned, Pattern.mentioned, Clause.Node.mentioned,
        Expression.mentioned, Expression.listMentioned_iris, named binds, FilterValue.suffixes]
  | concepts _ _ binds bindsBelow =>
      simp [ofConcepts, Pattern.link, listMentioned, Pattern.mentioned, Clause.Node.mentioned,
        named binds, named bindsBelow, FilterValue.suffixes]
      tauto
  | text _ binds =>
      simp [Pattern.link, listMentioned, Pattern.mentioned, Clause.Node.mentioned,
        Expression.mentioned, Expression.listMentioned, named binds, FilterValue.suffixes]
  | @timespan min max _ _ _ start stop _ _ bindsSpan bindsStart bindsStop =>
      have conditions := @mentioned_overlap shared start stop min max
      rw [ofSpan, listMentioned_append, listMentioned_filters, List.mem_append]
      simp only [FilterValue.suffixes, List.exists_mem_cons_iff, List.not_mem_nil, false_and,
        exists_false, or_false, named bindsSpan, named bindsStart, named bindsStop]
      simp only [Pattern.link, listMentioned, Pattern.mentioned, Clause.Node.mentioned,
        List.cons_append, List.nil_append, List.mem_cons, List.not_mem_nil, or_false]
      tauto
  | place nowhere _ bindsLatitude bindsLongitude =>
      simp [listMentioned_location, FilterValue.suffixes, nowhere, named bindsLatitude,
        named bindsLongitude]
  | located path _ binds bindsLatitude bindsLongitude =>
      simp [listMentioned, Pattern.link, Pattern.mentioned, Clause.Node.mentioned,
        listMentioned_location, FilterValue.suffixes, path, named binds, named bindsLatitude,
        named bindsLongitude]

theorem owns_of_mem (made : Filter.patterns facetClass facet target value = .ok patterns)
    (member : shared ∈ listMentioned patterns) : shared = target ∨ Owns facet.id shared := by
  refine (mem_listMentioned_patterns made).mp member |>.imp_right ?_
  rintro ⟨suffix, inside, name⟩
  exact ⟨suffix, value.suffixes_subset facet inside, name⟩

/-- Whether an id makes variables does not depend on what is added to it. -/
theorem exists_facetVariable_iff {id suffix other : String} (member : suffix ∈ suffixes)
    (memberToo : other ∈ suffixes) : (∃ target, facetVariable id suffix = .ok target) ↔
      ∃ target, facetVariable id other = .ok target := by
  have turn : ∀ {one two : String}, two ∈ suffixes → (∃ target, facetVariable id one = .ok target) →
      ∃ target, facetVariable id two = .ok target := by
    rintro one two member ⟨target, made⟩
    have wellFormed := target.wellFormed
    rw [facetVariable_eq_ok.mp made] at wellFormed
    exact ⟨⟨_, isVariable_append_suffix member wellFormed⟩, facetVariable_eq_ok.mpr rfl⟩
  exact ⟨turn memberToo, turn member⟩

/-- The patterns of two facets with different ids have their target in common and no other variable,
whatever their values are, as long as the target is no variable of one of the facets.  An id makes a
variable with one suffix if it does so with any other one; so in a valid portal, for which one
suffix was tried, each facet makes variables with all of them. -/
theorem patterns_share_target :
    (∀ {facetClass otherClass : String} {first second : Facet} {target : Variable}
        {value other : FilterValue} {patterns others : List Pattern}, first.id ≠ second.id →
      ¬Owns first.id target → ¬Owns second.id target →
      Filter.patterns facetClass first target value = .ok patterns →
      Filter.patterns otherClass second target other = .ok others →
      ∀ shared, shared ∈ listMentioned patterns ∧ shared ∈ listMentioned others ↔ shared = target) ∧
    (∀ id, ∀ suffix ∈ suffixes, ∀ other ∈ suffixes,
      (∃ target, facetVariable id suffix = .ok target) ↔
        ∃ target, facetVariable id other = .ok target) ∧
    ∀ {portal : Portal}, portal.validate = .ok () → ∀ spec ∈ portal.resultClasses,
      ∀ facet ∈ spec.facets, ∀ suffix ∈ suffixes,
        ∃ target, facetVariable facet.id suffix = .ok target := by
  refine ⟨?_, fun id suffix member other memberToo => exists_facetVariable_iff member memberToo, ?_⟩
  · intro facetClass otherClass first second target value other patterns others different apart
      apartToo made madeToo shared
    constructor
    · rintro ⟨member, memberToo⟩
      rcases owns_of_mem made member with same | owns
      · exact same
      rcases owns_of_mem madeToo memberToo with same | ownsToo
      · exact same
      exact absurd (eq_of_owns owns ownsToo) different
    · rintro rfl
      exact ⟨(mem_listMentioned_patterns made).mpr (.inl rfl),
        (mem_listMentioned_patterns madeToo).mpr (.inl rfl)⟩
  · intro portal valid spec member facet inside suffix isSuffix
    obtain ⟨target, found⟩ := Option.ne_none_iff_exists'.mp
      (Portal.variable_of_facet valid member inside isSuffix)
    exact ⟨target, facetVariable_eq_ok.mpr (Rdf.Variable.ofName?_eq_some.mp found)⟩

/-- Concepts of a facet `a` and texts of a facet `aFilter` share the entity alone. -/
theorem patterns_share_target_concepts : ∃ patterns others,
    Filter.patterns "c" ((Facet.ofUris "a" "ex:p").withParent "ex:up") ⟨"id", by decide⟩
      (.uris [] true) = .ok patterns ∧
    Filter.patterns "c" (Facet.ofText "aFilter" "ex:label") ⟨"id", by decide⟩ (.text "x") =
      .ok others ∧
    (∀ shared, shared ∈ listMentioned patterns ∧ shared ∈ listMentioned others ↔
      shared = ⟨"id", by decide⟩) ∧
    (∃ target, facetVariable "a" "Start" = .ok target) ∧
    Portal.dated.validate = .ok () ∧ ∃ target, facetVariable "period" "Lat" = .ok target := by
  have made : Filter.patterns "c" ((Facet.ofUris "a" "ex:p").withParent "ex:up") ⟨"id", by decide⟩
      (.uris [] true) = .ok _ :=
    ofUris_concepts_eq_ok.mpr ⟨_, _, ⟨"aFilter", by decide⟩, ⟨"aFilterWithSubconcepts", by decide⟩,
      rfl, rfl, rfl, rfl, rfl⟩
  have madeToo : Filter.patterns "c" (Facet.ofText "aFilter" "ex:label") ⟨"id", by decide⟩
      (.text "x") = .ok _ :=
    ofText_eq_ok.mpr ⟨_, ⟨"aFilterLabel", by decide⟩, rfl, rfl, rfl⟩
  have apart : ¬Owns ((Facet.ofUris "a" "ex:p").withParent "ex:up").id ⟨"id", by decide⟩ :=
    show ¬∃ suffix ∈ suffixes, "id" = "a" ++ suffix by decide
  have apartToo : ¬Owns (Facet.ofText "aFilter" "ex:label").id ⟨"id", by decide⟩ :=
    show ¬∃ suffix ∈ suffixes, "id" = "aFilter" ++ suffix by decide
  exact ⟨_, _, made, madeToo,
    patterns_share_target.1 (show "a" ≠ "aFilter" by decide) apart apartToo made madeToo,
    (patterns_share_target.2.1 "a" "Label" (by decide) "Start" (by decide)).mp
      ⟨⟨"aLabel", by decide⟩, facetVariable_eq_ok.mpr rfl⟩,
    Portal.validate_dated,
    patterns_share_target.2.2 Portal.validate_dated _ List.mem_cons_self _ List.mem_cons_self "Lat"
      (by decide)⟩

end Filter

end FacetedQuery
