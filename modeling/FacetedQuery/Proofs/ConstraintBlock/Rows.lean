import FacetedQuery.Portal.Manuscripts
import FacetedQuery.Proofs.ConstraintBlock.Ways
import Mathlib.Data.Finset.Prod

/-!
# Rows of constrained listings

A block in front of a listing that shares the target with it keeps the rows of the entities that
meet the constraints, each as often as the constraints leave choices for its entity.
-/

namespace FacetedQuery

open Clause (Bag Binding Operators Pattern Store)
open Clause.Bag (Detached extend extend_forward extend_link listExtend solutions tally)
open Clause.Pattern (Admits Confined conditions listBindable pair pair_object pair_of_ne)
open Outcome (mapM_cons_eq_ok mapM_nil_eq_ok)
open Rdf (Iri Term Variable)
open scoped Classical

/-- The part of a solution that a query selects. -/
def Clause.Binding.only (solution : Binding) (columns : List Variable) : Binding :=
  fun name => if name ∈ columns then solution name else none

/-- The rows that a query with some columns has for a group. -/
noncomputable def Clause.Bag.rowsOf (store : Store) (operators : Operators)
    (elements : List Pattern) (columns : List Variable) : Bag :=
  (solutions store operators elements).map fun solution => solution.only columns

/-- A listing that binds a variable, without optional parts. -/
structure Clause.Pattern.Lists (listing : List Pattern) (target : Variable) : Prop where
  plain : ∀ parts, Pattern.optional parts ∉ listing
  bound : target ∈ listBindable listing
  reads : ∀ condition ∈ conditions listing, ∀ read ∈ condition.mentioned,
    read ∈ listBindable listing

section

variable {store : Store} {operators : Operators} {elements listing : List Pattern}
  {target : Variable} {own : Variable → Prop} {columns : List Variable}

theorem Clause.Pattern.Lists.confined (lists : Clause.Pattern.Lists listing target) :
    Confined listing target (· ∈ listBindable listing) :=
  ⟨fun _ => .inr, lists.reads⟩

theorem Clause.Pattern.Lists.detached (lists : Clause.Pattern.Lists listing target) :
    Detached store operators listing target (· ∈ listBindable listing) :=
  .of_plain lists.plain lists.confined lists.bound

/-- A solution of the group and a row share their target and nothing else. -/
theorem compatible_iff_admits (detached : Detached store operators elements target own)
    (lists : Clause.Pattern.Lists listing target)
    (disjoint : ∀ name ∈ listBindable listing, own name → name = target)
    {solution row : Binding} (member : solution ∈ solutions store operators elements)
    (memberRow : row ∈ solutions store operators listing) {entity : Term}
    (atTarget : row target = some entity) :
    solution.Compatible row ↔ Admits target entity solution := by
  constructor
  · exact fun agree other bound => agree target other entity bound atTarget
  · intro admits name one two bound found
    by_cases isTarget : name = target
    · subst isTarget
      rw [atTarget] at found
      exact (admits one bound).trans (Option.some.inj found)
    · have isOwn : own name :=
        Clause.Bag.own_of_bound detached.confined member (by simp [bound]) isTarget
      have listed : name ∈ listBindable listing :=
        Clause.Bag.own_of_bound lists.confined memberRow (by simp [found]) isTarget
      exact absurd (disjoint name listed isOwn) isTarget

/-- What the group adds to a row is in none of its columns. -/
theorem only_merge (detached : Detached store operators elements target own)
    (disjoint : ∀ name ∈ listBindable listing, own name → name = target)
    (inside : columns ⊆ listBindable listing) {solution row : Binding}
    (member : solution ∈ solutions store operators elements) {entity : Term}
    (atTarget : row target = some entity) (admits : Admits target entity solution) :
    (solution.merge row).only columns = row.only columns := by
  funext name
  by_cases selected : name ∈ columns
  · cases bound : solution name with
    | none => simp [Clause.Binding.only, selected, Binding.merge, bound]
    | some term =>
        have isTarget : name = target := by
          by_contra different
          exact different (disjoint name (inside selected)
            (Clause.Bag.own_of_bound detached.confined member (by simp [bound]) different))
        subst isTarget
        simp [Clause.Binding.only, selected, Binding.merge, bound, atTarget, admits term bound]
  · simp [Clause.Binding.only, selected]

/-- A detached group repeats each row of a listing as often as it has a solution for its entity. -/
theorem rowsOf_append (detached : Detached store operators elements target own)
    (lists : Clause.Pattern.Lists listing target)
    (disjoint : ∀ name ∈ listBindable listing, own name → name = target)
    (inside : columns ⊆ listBindable listing) :
    Clause.Bag.rowsOf store operators (elements ++ listing) columns =
      (solutions store operators listing).bind fun row =>
        Multiset.replicate
          ((row target).elim 0 fun entity =>
            (solutions store operators elements).tally target entity)
          (row.only columns) := by
  rw [Clause.Bag.rowsOf, detached.solutions_append lists.detached fun shared isOwn member =>
      disjoint shared member isOwn, Clause.Bag.join, Multiset.bind_bind, Multiset.map_bind]
  refine Multiset.bind_congr fun row memberRow => ?_
  obtain ⟨entity, atTarget⟩ := Option.ne_none_iff_exists'.mp
    (lists.detached.anchored row (Clause.Bag.mem_solutions.mp memberRow).1)
  have meets : ∀ solution ∈ solutions store operators elements,
      (solution.meet row).map (fun joined => joined.only columns) =
        if Admits target entity solution then { row.only columns } else 0 := by
    intro solution member
    have compatible := compatible_iff_admits detached lists disjoint member memberRow atTarget
    by_cases admits : Admits target entity solution
    · rw [if_pos admits, Binding.meet_of_compatible (compatible.mpr admits), Multiset.map_singleton,
        only_merge detached disjoint inside member atTarget admits]
    · rw [if_neg admits, Binding.meet_of_not_compatible (mt compatible.mp admits),
        Multiset.map_zero]
  rw [Multiset.map_bind, Multiset.bind_congr meets, ← Multiset.bind_filter, Multiset.bind_singleton,
    Multiset.map_const', ← Multiset.countP_eq_card_filter, atTarget]
  rfl

/-- Rows that are kept at most once each are among the rows. -/
theorem bind_replicate_le {α β : Type*} (bag : Multiset α) (image : α → β) {weight : α → ℕ}
    (atMostOnce : ∀ item ∈ bag, weight item ≤ 1) :
    (bag.bind fun item => Multiset.replicate (weight item) (image item)) ≤ bag.map image := by
  induction bag using Multiset.induction_on with
  | empty => simp
  | cons item bag induction =>
      rw [Multiset.cons_bind, Multiset.map_cons, ← Multiset.singleton_add]
      refine add_le_add ?_ (induction fun other member =>
        atMostOnce other (Multiset.mem_cons_of_mem member))
      rw [← Multiset.replicate_one]
      exact Multiset.replicate_le_replicate _ |>.mpr (atMostOnce item (Multiset.mem_cons_self ..))

end

namespace ConstraintBlock

variable {store : Store} {operators : Operators} {portal : Portal} {facetClass : String}
  {constraints : Option ConstraintSet} {block : ConstraintBlock} {target : Variable}

/-- In how many ways an entity meets one constraint: how many solutions the block of this constraint
alone has for it. -/
noncomputable def ways (store : Store) (operators : Operators) (portal : Portal)
    (facetClass : String) (target : Variable) (entry : String × Constraint) (entity : Term) : ℕ :=
  match ofActive portal facetClass target.name [entry] with
  | .ok block => (solutions store operators block.elements).tally target entity
  | .error _ => 0

theorem ways_of_fragment {spec : ResultClass} {entry : String × Constraint}
    {patterns : List Pattern} (known : portal.resultClass facetClass = .ok spec)
    (made : fragment facetClass spec target entry = .ok patterns) (entity : Term) :
    ways store operators portal facetClass target entry entity =
      (solutions store operators patterns).tally target entity := by
  have alone : ofActive portal facetClass target.name [entry] = .ok ⟨patterns⟩ := by
    rw [ofActive, known, Rdf.Variable.ofName?_eq_some.mpr rfl]
    simp [Except.mapError, made, bind, Except.bind, pure, Except.pure]
  rw [ways, alone]

theorem prod_ways {spec : ResultClass} (known : portal.resultClass facetClass = .ok spec)
    {entries : List (String × Constraint)} {fragments : List (List Pattern)}
    (made : entries.mapM (fragment facetClass spec target) = .ok fragments) (entity : Term) :
    (entries.map fun entry => ways store operators portal facetClass target entry entity).prod =
      (fragments.map fun patterns =>
        (solutions store operators patterns).tally target entity).prod := by
  induction entries generalizing fragments with
  | nil =>
      obtain rfl := mapM_nil_eq_ok.mp made
      rfl
  | cons entry entries induction =>
      obtain ⟨first, rest, head, tail, rfl⟩ := mapM_cons_eq_ok.mp made
      rw [List.map_cons, List.prod_cons, List.map_cons, List.prod_cons, induction tail,
        ways_of_fragment known head]

/-- The number of ways in which an entity meets a constraint, by the value of the constraint. -/
theorem ways_eq (composed : compose portal facetClass constraints target.name = .ok block)
    {entry : String × Constraint} (member : entry ∈ active constraints)
    (apart : ¬Filter.Owns entry.1 target) :
    ∃ spec facet value, portal.resultClass facetClass = .ok spec ∧
      spec.facet? entry.1 = some facet ∧ checkValue facet entry.2 = .ok value ∧
      ∀ entity, ways store operators portal facetClass target entry entity =
        value.ways store operators facet entity := by
  rcases compose_eq_ok.mp composed with
    ⟨nothing, -⟩ | ⟨-, spec, found, fragments, known, name, made, -⟩
  · rw [nothing] at member
    cases member
  · obtain rfl := Rdf.Variable.ext_name name
    obtain ⟨patterns, head⟩ := Outcome.exists_of_mapM made member
    obtain ⟨facet, value, parts⟩ := fragment_eq_ok.mp head
    refine ⟨spec, facet, value, known, parts.known, parts.checked, fun entity => ?_⟩
    rw [ways_of_fragment known head]
    exact Filter.tally_patterns (by rwa [ResultClass.id_of_facet? parts.known]) parts.made

theorem tally_nothing (entity : Term) :
    (solutions store operators []).tally target entity = 1 := by
  have kept : solutions store operators [] = { Binding.unbound } :=
    Multiset.filter_eq_self.mpr fun _ _ => by simp [Clause.Pattern.Satisfies, conditions]
  have admits : ∀ solution ∈ ({ Binding.unbound } : Bag), Admits target entity solution := by
    simp [Admits, Binding.unbound]
  rw [kept, tally, Multiset.countP_eq_card.mpr admits, Multiset.card_singleton]

/-- A block has as many solutions for an entity as there are ways to meet its constraints. -/
theorem tally_block (composed : compose portal facetClass constraints target.name = .ok block)
    (entity : Term) :
    (solutions store operators block.elements).tally target entity =
      ((active constraints).map fun entry =>
        ways store operators portal facetClass target entry entity).prod := by
  rcases compose_eq_ok.mp composed with
    ⟨nothing, rfl⟩ | ⟨something, spec, found, fragments, known, name, made, rfl⟩
  · rw [nothing, empty, tally_nothing]
    rfl
  · obtain rfl := Rdf.Variable.ext_name name
    rw [prod_ways known made]
    exact (detached_fragments something (pairwise_active constraints) made).2 entity

theorem bound_of_block (composed : compose portal facetClass constraints target.name = .ok block)
    (something : active constraints ≠ []) {solution : Binding}
    (member : solution ∈ solutions store operators block.elements) : solution target ≠ none := by
  rcases compose_eq_ok.mp composed with
    ⟨nothing, -⟩ | ⟨-, spec, found, fragments, known, name, made, rfl⟩
  · exact absurd nothing something
  · obtain rfl := Rdf.Variable.ext_name name
    exact (detached_fragments something (pairwise_active constraints) made).1.anchored solution
      (Clause.Bag.mem_solutions.mp member).1

/-- A listing behind a block has the rows of the listing, each as often as its entity meets the
constraints. -/
theorem rowsOf_block {listing : List Pattern} {columns : List Variable}
    (composed : compose portal facetClass constraints target.name = .ok block)
    (lists : Clause.Pattern.Lists listing target)
    (apart : ∀ name ∈ listBindable listing, name ≠ target → ∀ entry ∈ active constraints,
      ¬Filter.Owns entry.1 name)
    (inside : columns ⊆ listBindable listing) :
    Clause.Bag.rowsOf store operators (block.elements ++ listing) columns =
      (solutions store operators listing).bind fun row =>
        Multiset.replicate ((row target).elim 0 fun entity => ((active constraints).map fun entry =>
          ways store operators portal facetClass target entry entity).prod) (row.only columns) := by
  simp only [← tally_block composed]
  rcases compose_eq_ok.mp composed with
    ⟨nothing, rfl⟩ | ⟨something, spec, found, fragments, known, name, made, rfl⟩
  · rw [Clause.Bag.rowsOf, empty, List.nil_append, ← Multiset.bind_singleton]
    refine Multiset.bind_congr fun row member => ?_
    obtain ⟨entity, atTarget⟩ := Option.ne_none_iff_exists'.mp
      (lists.detached.anchored row (Clause.Bag.mem_solutions.mp member).1)
    rw [atTarget, Option.elim_some, tally_nothing, Multiset.replicate_one]
  · obtain rfl := Rdf.Variable.ext_name name
    refine rowsOf_append (detached_fragments something (pairwise_active constraints) made).1 lists
      (fun name member owned => ?_) inside
    obtain ⟨other, memberToo, owns⟩ := owned
    by_contra different
    exact apart name member different other memberToo owns

/-- In how many ways an entity meets all constraints. -/
noncomputable def choices (store : Store) (operators : Operators) (portal : Portal)
    (facetClass : String) (constraints : Option ConstraintSet) (target : Variable) (entity : Term) :
    ℕ :=
  ((active constraints).map fun entry =>
    ways store operators portal facetClass target entry entity).prod

/-- Constraints restrict the entities of a block and of the listings behind it, and repeat each of
them as often as it meets the constraints. -/
theorem constraints_restrict_and_repeat
    (composed : compose portal facetClass constraints target.name = .ok block) :
    (∀ entity, (solutions store operators block.elements).tally target entity =
      choices store operators portal facetClass constraints target entity) ∧
    (active constraints ≠ [] → ∀ solution ∈ solutions store operators block.elements,
      solution target ≠ none) ∧
    (∀ entry ∈ active constraints, ¬Filter.Owns entry.1 target →
      ∃ spec facet value, portal.resultClass facetClass = .ok spec ∧
        spec.facet? entry.1 = some facet ∧ checkValue facet entry.2 = .ok value ∧
        ∀ entity, ways store operators portal facetClass target entry entity =
          value.ways store operators facet entity) ∧
    ∀ listing columns, Clause.Pattern.Lists listing target →
      (∀ name ∈ listBindable listing, name ≠ target → ∀ entry ∈ active constraints,
        ¬Filter.Owns entry.1 name) →
      columns ⊆ listBindable listing →
        Clause.Bag.rowsOf store operators (block.elements ++ listing) columns =
          ((solutions store operators listing).bind fun row =>
            Multiset.replicate ((row target).elim 0
              (choices store operators portal facetClass constraints target)) (row.only columns)) ∧
        (∀ row ∈ Clause.Bag.rowsOf store operators (block.elements ++ listing) columns,
          row ∈ Clause.Bag.rowsOf store operators listing columns) ∧
        ((∀ entity, choices store operators portal facetClass constraints target entity ≤ 1) →
          Clause.Bag.rowsOf store operators (block.elements ++ listing) columns ≤
            Clause.Bag.rowsOf store operators listing columns) := by
  refine ⟨tally_block composed, fun something _ => bound_of_block composed something,
    fun entry member => ways_eq composed member, fun listing columns lists apart inside => ?_⟩
  have rows := @rowsOf_block store operators _ _ _ _ _ _ _ composed lists apart inside
  refine ⟨rows, fun row member => ?_, fun atMostOnce => ?_⟩
  · rw [rows] at member
    obtain ⟨solution, found, repeated⟩ := Multiset.mem_bind.mp member
    rw [Multiset.eq_of_mem_replicate repeated]
    exact Multiset.mem_map_of_mem _ found
  · rw [rows]
    refine bind_replicate_le _ _ fun row _ => ?_
    cases row target with
    | none => exact Nat.zero_le 1
    | some entity => exact atMostOnce entity

/-- The variable of the manuscripts in listings about them. -/
def manuscriptsVariable : Variable :=
  ⟨"manuscripts", by decide⟩

def placeVariable : Variable :=
  ⟨"place", by decide⟩

def latitudeVariable : Variable :=
  ⟨"lat", by decide⟩

def longitudeVariable : Variable :=
  ⟨"long", by decide⟩

/-- The places where manuscripts were produced, with their coordinates. -/
def coordinates : List Pattern :=
  [.link manuscriptsVariable Manuscripts.producedAt placeVariable,
    .link placeVariable "wgs84:lat" latitudeVariable,
    .link placeVariable "wgs84:long" longitudeVariable]

theorem lists_coordinates : Clause.Pattern.Lists coordinates manuscriptsVariable where
  plain := by simp [coordinates, Pattern.link]
  bound := by simp [coordinates, Pattern.link, listBindable, Clause.Pattern.bindable,
    Clause.Node.mentioned]
  reads := by simp [coordinates, Pattern.link, conditions]

/-- One row for each link to a place and each pair of its coordinates. -/
theorem solutions_coordinates : solutions store operators coordinates =
    (store.links ⟨Manuscripts.producedAt⟩).bind fun link =>
      (store.values "wgs84:lat" link.2).bind fun latitude =>
        (store.values "wgs84:long" link.2).map fun longitude =>
          Function.update (Function.update
            (pair manuscriptsVariable placeVariable link.1 link.2)
              latitudeVariable (some latitude)) longitudeVariable (some longitude) := by
  have latitudes : ∀ link : Term × Term, extend store operators
      (.link placeVariable "wgs84:lat" latitudeVariable)
      { pair manuscriptsVariable placeVariable link.1 link.2 } = _ := fun link =>
    extend_forward (by decide) pair_object (pair_of_ne (by decide) (by decide))
  have longitudes : ∀ (link : Term × Term) (latitude : Term), extend store operators
      (.link placeVariable "wgs84:long" longitudeVariable)
      { Function.update (pair manuscriptsVariable placeVariable link.1 link.2) latitudeVariable
        (some latitude) } = _ := fun link latitude =>
    extend_forward (by decide) (by rw [Function.update_of_ne (by decide), pair_object])
      (by rw [Function.update_of_ne (by decide), pair_of_ne (by decide) (by decide)])
  have always : ∀ solution, Clause.Pattern.Satisfies operators coordinates solution := by
    simp [Clause.Pattern.Satisfies, coordinates, conditions, Pattern.link]
  have linked : extend store operators (.link manuscriptsVariable Manuscripts.producedAt
      placeVariable) { Binding.unbound } = _ :=
    (extend_link (by decide)).trans (Multiset.bind_congr fun link _ => Binding.unbound_meet)
  rw [solutions, Multiset.filter_eq_self.mpr fun solution _ => always solution, coordinates,
    listExtend, linked, Clause.Bag.listExtend_bind, Multiset.bind_assoc]
  refine Multiset.bind_congr fun link _ => ?_
  rw [Multiset.singleton_bind, listExtend, latitudes, Clause.Bag.listExtend_bind, Multiset.bind_map]
  exact Multiset.bind_congr fun latitude _ => longitudes link latitude

/-- A store in which every path that is not repeated finds the same links. -/
noncomputable def uniformStore (nodes : Finset Term) (link : Multiset (Term × Term))
    (inside : ∀ pair ∈ link, pair.1 ∈ nodes ∧ pair.2 ∈ nodes) : Store where
  nodes := nodes
  links path :=
    if ")*".toList.isSuffixOf path.text.toList then
      ((nodes ×ˢ nodes).filter fun pair =>
        Relation.ReflTransGen (fun left right => (left, right) ∈ link) pair.1 pair.2).val
    else link
  inside path pair member := by
    split at member
    · simpa using (Multiset.mem_filter.mp member).1
    · exact inside pair member
  distinct path := by
    rw [if_pos (ends_zeroOrMore path)]
    exact Finset.nodup _
  repeated path first last := by
    rw [if_pos (ends_zeroOrMore path), Finset.mem_val, Finset.mem_filter, Finset.mem_product]
    -- Several steps of a path that is repeated already are several steps of the links.
    have steps : Relation.ReflTransGen (fun left right => (left, right) ∈ link) first last ↔
        Relation.ReflTransGen (fun left right => (left, right) ∈
          if ")*".toList.isSuffixOf path.text.toList then
            ((nodes ×ˢ nodes).filter fun pair =>
              Relation.ReflTransGen (fun left right => (left, right) ∈ link) pair.1 pair.2).val
          else link) first last := by
      split
      · constructor
        · intro many
          refine Relation.ReflTransGen.mono (fun one two step => ?_) first last many
          rw [Finset.mem_val, Finset.mem_filter, Finset.mem_product]
          exact ⟨inside _ step, .single step⟩
        · intro many
          induction many with
          | refl => exact .refl
          | tail _ step further =>
              exact further.trans (Finset.mem_filter.mp (Finset.mem_val.mp step)).2
      · rfl
    rw [← steps]
    constructor
    · rintro ⟨⟨start, -⟩, many⟩
      exact ⟨start, many⟩
    · rintro ⟨start, many⟩
      refine ⟨⟨start, ?_⟩, many⟩
      cases many with
      | refl => exact start
      | tail _ step => exact (inside _ step).2

def elsewhere : Iri :=
  ⟨"http://b/", by decide +kernel⟩

def degree : Term :=
  .literal (.plain "1")

/-- A selection of authors. -/
def authors (items : List String) : Option ConstraintSet :=
  some (.ofList [("author", ⟨.uris items, false⟩)])

/-- A manuscript by two authors, the first of whom bears a coordinate. -/
noncomputable def twoAuthors : Store :=
  uniformStore {entity, .iri place, .iri elsewhere, degree}
    {(entity, .iri place), (entity, .iri elsewhere), (.iri place, degree)} (by
      intro pair member
      simp only [Multiset.insert_eq_cons, Multiset.mem_cons, Multiset.mem_singleton] at member
      rcases member with rfl | rfl | rfl <;> simp)

section

variable {path : String} (plain : ")*".toList.isSuffixOf path.toList = false)

include plain

theorem links_twoAuthors : twoAuthors.links ⟨path⟩ =
    {(entity, .iri place), (entity, .iri elsewhere), (.iri place, degree)} :=
  if_neg (ne_true_of_eq_false plain)

theorem values_entity : twoAuthors.values path entity = {.iri place, .iri elsewhere} := by
  simp [Clause.Store.values, links_twoAuthors plain, Multiset.insert_eq_cons,
    Multiset.filter_singleton, entity]

theorem values_of_ne {term : Term} (different : term ≠ entity) :
    twoAuthors.values path term = if term = .iri place then {degree} else 0 := by
  by_cases isPlace : term = .iri place
  · simp [Clause.Store.values, links_twoAuthors plain, Multiset.insert_eq_cons,
      Multiset.filter_singleton, isPlace, entity]
  · simp [Clause.Store.values, links_twoAuthors plain, Multiset.insert_eq_cons,
      Multiset.filter_singleton, isPlace, different.symm, Ne.symm isPlace]

end

/-- The manuscript was produced at one place with one pair of coordinates. -/
theorem listed_twoAuthors : ∃ row : Binding, row manuscriptsVariable = some entity ∧
    solutions twoAuthors syntactic coordinates = {row} := by
  have atPlace : ∀ path, ")*".toList.isSuffixOf path.toList = false →
      twoAuthors.values path (.iri place) = {degree} := fun path plain => by
    rw [values_of_ne plain (by simp [entity]), if_pos rfl]
  have atElsewhere : ∀ path, ")*".toList.isSuffixOf path.toList = false →
      twoAuthors.values path (.iri elsewhere) = 0 := fun path plain => by
    rw [values_of_ne plain (by simp [entity]), if_neg (by decide +kernel)]
  have atDegree : ∀ path, ")*".toList.isSuffixOf path.toList = false →
      twoAuthors.values path degree = 0 := fun path plain => by
    rw [values_of_ne plain (by simp [entity, degree]), if_neg (by simp [degree])]
  refine ⟨Function.update
    (Function.update (pair manuscriptsVariable placeVariable entity (.iri place))
      latitudeVariable (some degree)) longitudeVariable (some degree), ?_, ?_⟩
  · rw [Function.update_of_ne (by decide), Function.update_of_ne (by decide),
      Clause.Pattern.pair_subject (by decide)]
  · rw [solutions_coordinates, links_twoAuthors (by decide)]
    simp only [Multiset.insert_eq_cons, Multiset.cons_bind, Multiset.singleton_bind,
      atPlace "wgs84:lat" (by decide), atPlace "wgs84:long" (by decide),
      atElsewhere "wgs84:lat" (by decide), atDegree "wgs84:lat" (by decide), Multiset.zero_bind,
      Multiset.map_singleton, add_zero]

theorem coordinates_apart (facet : String) {name : Variable}
    (member : name ∈ listBindable coordinates) : ¬Filter.Owns facet name := by
  rintro ⟨suffix, isSuffix, same⟩
  have foreign : ∀ name ∈ listBindable coordinates, ∀ suffix ∈ Filter.suffixes,
      ¬suffix.toList.isSuffixOf name.name.toList := by decide
  refine foreign name member suffix isSuffix ?_
  rw [List.isSuffixOf_iff_suffix, same, String.toList_append]
  exact List.suffix_append ..

/-- How many of the selected authors an entity has. -/
theorem choices_authors {items : List String} {iris : List Iri} {selected : ConstraintBlock}
    (isActive : active (authors items) = [("author", ⟨.uris items, false⟩)])
    (checked : checkUris items = .ok iris)
    (composed : compose Manuscripts.portal "manuscripts" (authors items) manuscriptsVariable.name =
      .ok selected) (term : Term) :
    choices store operators Manuscripts.portal "manuscripts" (authors items) manuscriptsVariable
        term =
      (store.values Manuscripts.producedBy term).countP fun value =>
        ∃ item ∈ iris, value = .iri item := by
  obtain ⟨spec, facet, value, known, knownFacet, accepted, equal⟩ := ways_eq composed
    (by rw [isActive]; exact List.mem_cons_self)
    (coordinates_apart "author" lists_coordinates.bound)
  cases known
  cases knownFacet
  obtain rfl : value = .uris iris false := by
    obtain ⟨found, read, rfl⟩ := accepts_of_checkValue accepted
    rw [Except.ok.inj (read.symm.trans checked)]
  rw [choices, isActive, List.map_singleton, List.prod_singleton, equal]
  rfl

/-- With one author selected the manuscript is listed once. -/
theorem constraints_restrict_and_repeat_author : ∃ selected,
    compose Manuscripts.portal "manuscripts" (authors ["http://a/"]) manuscriptsVariable.name =
      .ok selected ∧
    (solutions twoAuthors syntactic selected.elements).tally manuscriptsVariable entity = 1 ∧
    Clause.Bag.rowsOf twoAuthors syntactic (selected.elements ++ coordinates)
        [latitudeVariable, longitudeVariable] ≤
      Clause.Bag.rowsOf twoAuthors syntactic coordinates [latitudeVariable, longitudeVariable] := by
  obtain ⟨selected, composed⟩ : ∃ selected, compose Manuscripts.portal "manuscripts"
      (authors ["http://a/"]) manuscriptsVariable.name = .ok selected := ⟨_, rfl⟩
  have chosen := fun term => @choices_authors twoAuthors syntactic _ [place] _ rfl rfl composed term
  have once : choices twoAuthors syntactic Manuscripts.portal "manuscripts" (authors ["http://a/"])
      manuscriptsVariable entity = 1 := by
    rw [chosen, values_entity (by decide)]
    simp [Multiset.insert_eq_cons, Multiset.countP_eq_card_filter, Multiset.filter_singleton,
      show elsewhere ≠ place by decide +kernel]
  obtain ⟨counted, -, -, listed⟩ := @constraints_restrict_and_repeat twoAuthors syntactic _ _ _ _ _
    composed
  refine ⟨selected, composed, (counted entity).trans once, ?_⟩
  refine (listed coordinates _ lists_coordinates (fun name member _ entry _ =>
    coordinates_apart entry.1 member) (by decide)).2.2 fun term => ?_
  by_cases isEntity : term = entity
  · rw [isEntity, once]
  · rw [chosen, values_of_ne (by decide) isEntity]
    split
    · exact Multiset.countP_le_card ..
    · exact Nat.zero_le 1

/-- With both authors selected the coordinates of the manuscript are listed twice. -/
theorem exists_repeated_coordinates : ∃ selected,
    compose Manuscripts.portal "manuscripts" (authors ["http://a/", "http://b/"])
      manuscriptsVariable.name = .ok selected ∧
    1 < (solutions twoAuthors syntactic selected.elements).countP
      (fun solution => solution manuscriptsVariable = some entity) ∧
    ¬Clause.Bag.rowsOf twoAuthors syntactic (selected.elements ++ coordinates)
        [latitudeVariable, longitudeVariable] ≤
      Clause.Bag.rowsOf twoAuthors syntactic coordinates [latitudeVariable, longitudeVariable] := by
  obtain ⟨selected, composed⟩ : ∃ selected, compose Manuscripts.portal "manuscripts"
      (authors ["http://a/", "http://b/"]) manuscriptsVariable.name = .ok selected := ⟨_, rfl⟩
  have twice : choices twoAuthors syntactic Manuscripts.portal "manuscripts"
      (authors ["http://a/", "http://b/"]) manuscriptsVariable entity = 2 := by
    rw [@choices_authors twoAuthors syntactic _ [place, elsewhere] _ rfl rfl composed,
      values_entity (by decide)]
    simp [Multiset.insert_eq_cons, Multiset.countP_eq_card_filter, Multiset.filter_singleton]
  refine ⟨selected, composed, ?_, fun among => ?_⟩
  · have bound : ∀ solution ∈ solutions twoAuthors syntactic selected.elements,
        Admits manuscriptsVariable entity solution =
          (solution manuscriptsVariable = some entity) := by
      intro solution member
      obtain ⟨term, found⟩ := Option.ne_none_iff_exists'.mp
        (bound_of_block composed (by decide) member)
      simp [Admits, found]
    rw [← Multiset.countP_congr rfl bound, ← tally, tally_block composed, ← choices, twice]
    exact Nat.one_lt_two
  · obtain ⟨row, atTarget, listed⟩ := listed_twoAuthors
    have size := Multiset.card_le_card among
    rw [rowsOf_block composed lists_coordinates (fun name member _ entry _ =>
      coordinates_apart entry.1 member) (by decide), listed, Clause.Bag.rowsOf, listed] at size
    simp only [Multiset.singleton_bind, atTarget, Option.elim_some, Multiset.card_replicate,
      Multiset.map_singleton, Multiset.card_singleton] at size
    rw [← choices, twice] at size
    exact absurd size (by decide)

end ConstraintBlock

end FacetedQuery
