import FacetedQuery.Proofs.ConstraintBlock.Facets
import FacetedQuery.Proofs.ConstraintBlock.Outline

/-!
# The meaning of constraint blocks

A composed block restricts its target to the terms that meet every active constraint.
-/

namespace FacetedQuery

open Clause (Binding Graph Operators Pattern PropertyPath)
open Clause.Pattern (Admits Restricts)
open Rdf (Iri Term Variable)

namespace ConstraintBlock

open Clause.Pattern (bound_of_mem listExtend solutions)
open Outcome (mapM_cons_eq_ok mapM_nil_eq_ok)

variable {graph : Graph} {operators : Operators}

theorem mem_checked {items : List String} {iris : List Iri} {iri : Iri}
    (checked : checkUris items = .ok iris) :
    iri ∈ iris ↔ iri.text ∈ items.map Text.trim := by
  have texts := checkUris_eq_ok checked
  have notBlank : iri.text ≠ "" := by
    intro blank
    obtain ⟨rest, colon, -⟩ := Rdf.Iri.exists_scheme iri.wellFormed
    simp [blank] at colon
  have inTexts : iri ∈ iris ↔ iri.text ∈ iris.map (·.text) := by
    constructor
    · exact List.mem_map_of_mem
    · intro member
      obtain ⟨other, inside, same⟩ := List.mem_map.mp member
      cases iri
      cases other
      cases same
      exact inside
  rw [inTexts, texts, List.mem_filter]
  simp [notBlank]

/-- Checking a value does not change what it asks. -/
theorem meets_of_checked {facet : Facet} {constraint : Constraint} {value : FilterValue}
    (checked : checkValue facet constraint = .ok value) (entity : Term) :
    value.Meets graph operators facet entity ↔ constraint.Meets graph operators facet entity := by
  have accepts := accepts_of_checkValue checked
  unfold Accepts at accepts
  unfold Constraint.Meets
  cases kind : constraint.value with
  | uris items =>
    simp only [kind] at accepts
    obtain ⟨iris, read, rfl⟩ := accepts
    have same : (fun term => ∃ item ∈ iris, term = Term.iri item) = fun term =>
        ∃ iri : Iri, iri.text ∈ items.map Text.trim ∧ term = .iri iri := by
      funext term
      simp only [mem_checked read]
    simp only [FilterValue.Meets, same]
  | text content =>
    simp only [kind] at accepts
    subst accepts
    simp only [FilterValue.Meets, Clause.Graph.Labels, Text.lowercase_lowercase]
  | timespan range =>
    simp only [kind] at accepts
    obtain ⟨min, max, lower, upper, rfl⟩ := accepts
    rw [(checkBound_eq_ok lower).2, (checkBound_eq_ok upper).2]
    rfl
  | box corners =>
    simp only [kind] at accepts
    obtain ⟨-, rfl⟩ := accepts
    rfl

/-- The blocks of several constraints restrict their target one after the other. -/
theorem restricts_fragments {facetClass : String} {spec : ResultClass} {target : Variable}
    {entries : List (String × Constraint)} {fragments : List (List Pattern)}
    (distinct : entries.Pairwise fun left right => left.1 ≠ right.1)
    (apart : ∀ entry ∈ entries, ¬Filter.Owns entry.1 target)
    (made : entries.mapM (fragment facetClass spec target) = .ok fragments) :
    Restricts graph operators fragments.flatten target
      (fun name => ∃ entry ∈ entries, Filter.Owns entry.1 name)
      fun entity => ∀ entry ∈ entries, ∃ facet, spec.facet? entry.1 = some facet ∧
        entry.2.Meets graph operators facet entity := by
  induction entries generalizing fragments with
  | nil =>
      obtain rfl := mapM_nil_eq_ok.mp made
      simpa using Restricts.nil target
  | cons entry entries induction =>
      obtain ⟨first, rest, head, tail, rfl⟩ := mapM_cons_eq_ok.mp made
      obtain ⟨facet, value, parts⟩ := fragment_eq_ok.mp head
      obtain ⟨different, distinctRest⟩ := List.pairwise_cons.mp distinct
      have sameId : facet.id = entry.1 := ResultClass.id_of_facet? parts.known
      have apartFirst : ¬Filter.Owns facet.id target := by
        rw [sameId]
        exact apart entry (by simp)
      have restricts := @Filter.restricts_patterns graph operators _ _ _ _ _ apartFirst parts.made
      have later := induction distinctRest (fun other member => apart other (by simp [member])) tail
      have disjoint : ∀ shared, Filter.Owns facet.id shared →
          ¬∃ other ∈ entries, Filter.Owns other.1 shared := by
        rintro shared owns ⟨other, member, ownsToo⟩
        exact different other member (sameId.symm.trans (Filter.eq_of_owns owns ownsToo))
      have both := restricts.append later disjoint
      rw [sameId] at both
      simp only [List.flatten_cons, List.exists_mem_cons_iff, List.forall_mem_cons]
      refine both.congr fun entity => and_congr_left fun _ => ?_
      rw [meets_of_checked parts.checked]
      constructor
      · exact fun meets => ⟨facet, parts.known, meets⟩
      · rintro ⟨other, known, meets⟩
        obtain rfl := Option.some.inj (known.symm.trans parts.known)
        exact meets

theorem pairwise_active (constraints : Option ConstraintSet) :
    (active constraints).Pairwise fun left right => left.1 ≠ right.1 := by
  cases constraints with
  | none => exact .nil
  | some set =>
      have ordered := set.ordered.imp fun smaller => Std.ne_of_lt smaller
      exact ordered.filter _

/-- What a constraint asks of an entity, read with the facets of a class. -/
def Asks (graph : Graph) (operators : Operators) (portal : Portal) (facetClass : String)
    (entry : String × Constraint) (entity : Term) : Prop :=
  ∃ spec facet, portal.resultClass facetClass = .ok spec ∧ spec.facet? entry.1 = some facet ∧
    entry.2.Meets graph operators facet entity

variable {portal : Portal} {facetClass : String} {constraints : Option ConstraintSet}
  {block : ConstraintBlock} {target : Variable}

theorem solutions_empty : solutions graph operators empty.elements = { Binding.unbound } := by
  ext solution
  simp [solutions, empty, listExtend, Clause.Pattern.Satisfies, Clause.Pattern.conditions]

/-- A block with constraints binds its target. -/
theorem bound_of_fragments {spec : ResultClass} {entries : List (String × Constraint)}
    {fragments : List (List Pattern)} (nonempty : entries ≠ [])
    (made : entries.mapM (fragment facetClass spec target) = .ok fragments)
    {solution joined : Binding}
    (member : joined ∈ listExtend graph operators fragments.flatten { solution }) :
    joined target ≠ none := by
  cases entries with
  | nil => exact absurd rfl nonempty
  | cons entry entries =>
      obtain ⟨first, rest, head, -, rfl⟩ := mapM_cons_eq_ok.mp made
      obtain ⟨facet, value, parts⟩ := fragment_eq_ok.mp head
      obtain ⟨path, object, inside⟩ := Filter.exists_triple parts.made
      exact bound_of_mem (List.mem_append_left _ inside) member

/-- The solutions of a block bind its target to the terms that meet every active constraint, or
leave it open if there is none. -/
theorem solutions_eq_asked
    (composed : compose portal facetClass constraints target.name = .ok block)
    (apart : ∀ entry ∈ active constraints, ¬Filter.Owns entry.1 target) :
    (∀ entity, (∃ solution ∈ solutions graph operators block.elements,
        Admits target entity solution) ↔
      ∀ entry ∈ active constraints, Asks graph operators portal facetClass entry entity) ∧
    (active constraints ≠ [] →
      { entity | ∃ solution ∈ solutions graph operators block.elements,
        solution target = some entity } =
      { entity | ∀ entry ∈ active constraints,
        Asks graph operators portal facetClass entry entity }) := by
  rcases compose_eq_ok.mp composed with
    ⟨nothing, rfl⟩ | ⟨something, spec, found, fragments, known, name, made, rfl⟩
  · rw [solutions_empty, nothing]
    simp [Admits, Binding.unbound]
  · obtain rfl := Rdf.Variable.ext_name name
    have restricts := @restricts_fragments graph operators _ _ _ _ _
      (pairwise_active constraints) apart made
    have asked : ∀ entity, (∃ solution ∈ solutions graph operators fragments.flatten,
        Admits found entity solution) ↔
        ∀ entry ∈ active constraints, Asks graph operators portal facetClass entry entity := by
      intro entity
      have meaning := restricts.meaning Binding.unbound (fun _ _ => rfl) entity
        (by simp [Admits, Binding.unbound])
      simp only [Asks, known, Except.ok.injEq, exists_eq_left', exists_and_left]
      rw [← meaning]
      simp [solutions, and_assoc]
    refine ⟨asked, fun _ => ?_⟩
    ext entity
    refine Iff.trans ?_ (asked entity)
    constructor
    · rintro ⟨solution, member, bound⟩
      exact ⟨solution, member, by simp [Admits, bound]⟩
    · rintro ⟨solution, member, admits⟩
      refine ⟨solution, member, ?_⟩
      cases bound : solution found with
      | none => exact absurd bound (bound_of_fragments something made member.1)
      | some term => rw [admits term bound]

theorem ends_zeroOrMore (path : PropertyPath) :
    ")*".toList.isSuffixOf path.zeroOrMore.text.toList = true := by
  rw [List.isSuffixOf_iff_suffix]
  exact ⟨"(".toList ++ path.text.toList, by simp [PropertyPath.zeroOrMore]⟩

/-- A graph in which every property path that is not repeated relates the same terms. -/
def uniform (link : Term → Term → Prop) : Graph where
  related path :=
    if ")*".toList.isSuffixOf path.text.toList then Relation.ReflTransGen link else link
  repeated path first last := by
    rw [if_pos (ends_zeroOrMore path)]
    split
    · rw [@Relation.reflTransGen_eq_self _ (Relation.ReflTransGen link)]
    · rfl

/-- Values are equal if they are the same, and nothing is compared. -/
def syntactic : Operators where
  cast _ _ := none
  atLeast _ _ := none
  atMost _ _ := none
  equal first second := some (decide (first = second))
  holds _ := none
  lowercase := Text.lowercase

/-- The node of the link. -/
def entity : Term :=
  .blank ⟨"x", by decide⟩

def place : Iri :=
  ⟨"http://a/", by decide +kernel⟩

theorem solutions_eq_asked_single :
    ∃ target block, target.name = "id" ∧
      compose (single "f" "ex:a") "c" (selection "f") target.name = .ok block ∧
      (∀ entry ∈ active (selection "f"), ¬Filter.Owns entry.1 target) ∧
      { found | ∃ solution ∈ solutions
          (uniform fun first last => first = entity ∧ last = .iri place) syntactic
          block.elements, solution target = some found } = { entity } := by
  let target : Variable := ⟨"id", by decide⟩
  have entries : active (selection "f") = [("f", ⟨.uris ["http://a/"], false⟩)] := rfl
  obtain ⟨block, composed⟩ :
      ∃ block, compose (single "f" "ex:a") "c" (selection "f") "id" = .ok block := ⟨_, rfl⟩
  have apart : ∀ entry ∈ active (selection "f"), ¬Filter.Owns entry.1 target := by
    rw [entries]
    rintro _ (_ | _) ⟨suffix, member, same⟩
    · revert suffix
      decide
    · contradiction
  refine ⟨target, block, rfl, composed, apart, ?_⟩
  rw [(solutions_eq_asked composed apart).2 (by simp [entries])]
  ext found
  have asks : Asks (uniform fun first last => first = entity ∧ last = .iri place) syntactic
      (single "f" "ex:a") "c" ("f", ⟨.uris ["http://a/"], false⟩) found ↔ found = entity := by
    constructor
    · rintro ⟨spec, facet, known, knownToo, predicate, path, item, -, related⟩
      cases known
      cases knownToo
      cases path
      exact related.1
    · rintro rfl
      exact ⟨_, _, rfl, rfl, "ex:a", rfl, .iri place, ⟨place, by decide +kernel, rfl⟩, rfl, rfl⟩
  simpa [entries] using asks

end ConstraintBlock

end FacetedQuery
