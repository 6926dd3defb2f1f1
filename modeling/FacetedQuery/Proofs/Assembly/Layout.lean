import FacetedQuery.Proofs.Assembly.Queries

/-!
# What a request reads of a portal

A request reads the texts of its class or of its route, and of all facets those that it names.  If
these are laid out line by line its block fits in its place, whatever else the portal holds.
-/

namespace FacetedQuery

open ConstraintBlock (active compose compose_eq_ok fragment)
open Outcome (mapM_congr_of_mem)
open Template (Named Passage)

/-- The constraints of a request. -/
def Request.constraints : Request → Option ConstraintSet
  | .count _ constraints => constraints
  | .resultSet _ constraints _ _ => constraints
  | .listing _ _ constraints _ => constraints
  | .lookup _ _ constraints _ => constraints

/-- The facets that a request names: those of its constraints, and the one that sorts it. -/
inductive Request.Names (spec : ResultClass) : Request → String → Prop where
  | constraint {request : Request} {entry : String × Constraint} :
      entry ∈ active request.constraints → Names spec request entry.1
  | order {resultClass key : String} {constraints : Option ConstraintSet} {page : Page}
      {order : SortOrder} : order.key.or spec.defaultSortKey = some key →
      Names spec (.resultSet resultClass constraints page order) key

/-- A listing of which one query is arranged around a block that restricts a variable. -/
structure ListingRoute.Framed (prologue : Sparql.Prologue) (route : ListingRoute)
    (groupBy : Bool) : Prop where
  target : Named route.filterTarget
  closed : Text.Closed route.filterTarget.toList
  query : (route.variant groupBy).query.Presentable prologue route.resultClass route.filterTarget

namespace Portal

/-- The class whose facets interpret the constraints of a request. -/
def facetClass (portal : Portal) : Request → String
  | .count resultClass _ => resultClass
  | .resultSet resultClass _ _ _ => resultClass
  | .listing resultClass requested _ _ =>
    match portal.listing resultClass with
    | .ok route => Assembler.facetClass requested route.facetClass resultClass
    | .error _ => resultClass
  | .lookup resultClass requested _ _ =>
    match portal.lookup resultClass with
    | .ok route => Assembler.facetClass requested route.facetClass resultClass
    | .error _ => resultClass

section

variable {portal : Portal} {resultClass : String} (requested : Option String)
  (constraints : Option ConstraintSet)

theorem facetClass_listing {route : ListingRoute} (known : portal.listing resultClass = .ok route)
    (groupBy : Bool) : portal.facetClass (.listing resultClass requested constraints groupBy) =
      Assembler.facetClass requested route.facetClass resultClass := by
  simp only [facetClass, known]

theorem facetClass_lookup {route : LookupRoute} (known : portal.lookup resultClass = .ok route)
    (uri : String) : portal.facetClass (.lookup resultClass requested constraints uri) =
      Assembler.facetClass requested route.facetClass resultClass := by
  simp only [facetClass, known]

end

/-- The texts around the block of a request fit: the RDF classes and, on a page, the properties of
its class, or the template of its route. -/
def Frames (portal : Portal) : Request → Prop
  | .count resultClass _ =>
    ∀ spec, portal.resultClass resultClass = .ok spec → spec.ListsNames portal.prologue
  | .resultSet resultClass _ _ _ =>
    ∀ spec, portal.resultClass resultClass = .ok spec → spec.Framed portal.prologue
  | .listing resultClass _ _ groupBy =>
    ∀ route, portal.listing resultClass = .ok route → route.Framed portal.prologue groupBy
  | .lookup resultClass _ _ _ =>
    ∀ route, portal.lookup resultClass = .ok route → route.Presentable portal.prologue

/-- What a request reads of a portal is laid out line by line: the prefixes, the texts around its
block, and the facets that it names. -/
structure LaysOut (portal : Portal) (request : Request) : Prop where
  prefixes : ∀ declaration ∈ portal.prefixes, declaration.Sound
  frame : portal.Frames request
  facets : ∀ spec, portal.resultClass (portal.facetClass request) = .ok spec →
    ∀ id, request.Names spec id → ∀ facet, spec.facet? id = some facet →
      facet.Presentable portal.prologue

theorem mem_of_listing {portal : Portal} {resultClass : String} {route : ListingRoute}
    (known : portal.listing resultClass = .ok route) :
    route ∈ portal.listings ∧ route.resultClass = resultClass := by
  unfold Portal.listing at known
  split at known
  · next found =>
    cases known
    exact ⟨List.mem_of_find?_eq_some found, by simpa using List.find?_some found⟩
  · cases known

theorem mem_of_lookup {portal : Portal} {resultClass : String} {route : LookupRoute}
    (known : portal.lookup resultClass = .ok route) :
    route ∈ portal.lookups ∧ route.resultClass = resultClass := by
  unfold Portal.lookup at known
  split at known
  · next found =>
    cases known
    exact ⟨List.mem_of_find?_eq_some found, by simpa using List.find?_some found⟩
  · cases known

/-- In a presentable portal every request finds its texts laid out. -/
theorem Presentable.laysOut {portal : Portal} (presentable : portal.Presentable)
    (request : Request) : portal.LaysOut request where
  prefixes := presentable.prefixes
  frame := by
    have framed : ∀ {id spec}, portal.resultClass id = .ok spec → spec.Framed portal.prologue :=
      fun known =>
        (presentable.classes _ (ConstraintBlock.Portal.mem_of_resultClass known)).toFramed
    cases request with
    | count => exact fun _ known => (framed known).classes
    | resultSet => exact fun _ known => framed known
    | listing resultClass requested constraints groupBy =>
        intro route known
        have isRoute := presentable.listings route (mem_of_listing known).1
        exact ⟨isRoute.target, isRoute.closed, isRoute.queries groupBy⟩
    | lookup => exact fun route known => presentable.lookups route (mem_of_lookup known).1
  facets spec known _ _ facet found :=
    (presentable.classes spec (ConstraintBlock.Portal.mem_of_resultClass known)).facets facet
      (List.mem_of_find?_eq_some found)

end Portal

/-- A class with no facets but those with the given ids. -/
def ResultClass.keeping (spec : ResultClass) (ids : List String) : ResultClass :=
  { spec with facets := ids.filterMap spec.facet? }

theorem ResultClass.facet?_keeping {spec : ResultClass} {ids : List String} {id : String}
    (member : id ∈ ids) : (spec.keeping ids).facet? id = spec.facet? id := by
  change (ids.filterMap spec.facet?).find? (·.id == id) = _
  rw [List.find?_filterMap]
  cases first : ids.find? fun other => (spec.facet? other).any (·.id == id) with
  | none =>
      have apart := List.find?_eq_none.mp first id member
      cases found : spec.facet? id with
      | none => rfl
      | some facet => simp [found, ResultClass.id_of_facet? found] at apart
  | some other =>
      have same := List.find?_some first
      cases found : spec.facet? other with
      | none => simp [found] at same
      | some facet =>
          obtain rfl : other = id := by simpa [found, ResultClass.id_of_facet? found] using same
          rfl

/-- A portal with no class but one, and with no routes. -/
def Portal.alone (portal : Portal) (spec : ResultClass) : Portal :=
  ⟨portal.prefixes, [spec], [], []⟩

namespace ConstraintBlock

variable {portal : Portal} {spec : ResultClass} {facetClass filterTarget : String}
  {constraints : Option ConstraintSet} {block : ConstraintBlock}

/-- A block is made from the facets that its constraints name, whatever else there is. -/
theorem compose_keeping (known : portal.resultClass facetClass = .ok spec)
    (composed : compose portal facetClass constraints filterTarget = .ok block) :
    compose (portal.alone (spec.keeping ((active constraints).map Prod.fst))) facetClass constraints
      filterTarget = .ok block := by
  rcases compose_eq_ok.mp composed with
    ⟨nothing, rfl⟩ | ⟨nonempty, other, target, fragments, isClass, name, made, rfl⟩
  · exact compose_eq_ok.mpr (.inl ⟨nothing, rfl⟩)
  obtain rfl : spec = other := Except.ok.inj (known.symm.trans isClass)
  let kept := spec.keeping ((active constraints).map Prod.fst)
  refine compose_eq_ok.mpr (.inr ⟨nonempty, kept, target, fragments, ?_, name, ?_, rfl⟩)
  · have sameId : spec.id = facetClass := Portal.id_of_resultClass known
    simp [Portal.resultClass, Portal.alone, kept, ResultClass.keeping, sameId]
  · refine (mapM_congr_of_mem fun entry member => ?_).trans made
    have same : kept.facet entry.1 = spec.facet entry.1 := by
      unfold ResultClass.facet
      rw [ResultClass.facet?_keeping (List.mem_map_of_mem member)]
      rfl
    unfold fragment
    rw [same]

/-- A block fits in its place if the facets of its constraints are presentable. -/
theorem passage_of_facets {fills : List (Placeholder × List Char)}
    (facets : ∀ spec, portal.resultClass facetClass = .ok spec → ∀ entry ∈ active constraints,
      ∀ facet, spec.facet? entry.1 = some facet → facet.Presentable portal.prologue)
    (given : fills.lookup .filter = some block.render.toList) (named : Named filterTarget)
    (closed : Text.Closed filterTarget.toList)
    (composed : compose portal facetClass constraints filterTarget = .ok block) :
    Passage portal.prologue fills [Placeholder.filter.token]
        (Clause.Pattern.listScope block.elements) [] ∧
      ∀ name ∈ Clause.Pattern.listScope block.elements, name = filterTarget ∨ IsOwn name := by
  -- The block is one of a portal that has the facets of its constraints alone.
  have fits : ∀ others : List ResultClass, (∀ spec ∈ others, ∀ facet ∈ spec.facets,
      facet.Presentable portal.prologue) →
      compose ⟨portal.prefixes, others, [], []⟩ facetClass constraints filterTarget = .ok block →
      _ := fun others isFacet here =>
    @Passage.block _ ⟨portal.prefixes, others, [], []⟩ _ _ _ _ given
      (Portal.navigable_of_facets isFacet) (Portal.settles_of_facets isFacet)
      (Portal.tokenises_of_facets isFacet) named.whole closed here
  rcases compose_eq_ok.mp composed with ⟨nothing, rfl⟩ | ⟨-, spec, -, -, known, -⟩
  · exact fits [] (by simp) (compose_eq_ok.mpr (.inl ⟨nothing, rfl⟩))
  · refine fits [spec.keeping ((active constraints).map Prod.fst)] ?_
      (compose_keeping known composed)
    simp only [List.mem_singleton, forall_eq]
    intro facet member
    obtain ⟨id, inside, found⟩ := List.mem_filterMap.mp member
    obtain ⟨entry, isEntry, rfl⟩ := List.mem_map.mp inside
    exact facets spec known entry isEntry facet found

end ConstraintBlock

/-- The block of a request fits in its place if what the request reads is laid out. -/
theorem Portal.LaysOut.block {portal : Portal} {request : Request}
    (laysOut : portal.LaysOut request)
    {fills : List (Placeholder × List Char)} {filterTarget : String} {block : ConstraintBlock}
    (given : fills.lookup .filter = some block.render.toList) (named : Named filterTarget)
    (closed : Text.Closed filterTarget.toList)
    (composed : compose portal (portal.facetClass request) request.constraints filterTarget =
      .ok block) :
    Passage portal.prologue fills [Placeholder.filter.token]
        (Clause.Pattern.listScope block.elements) [] ∧
      ∀ name ∈ Clause.Pattern.listScope block.elements,
        name = filterTarget ∨ ConstraintBlock.IsOwn name :=
  ConstraintBlock.passage_of_facets (fun spec known entry member facet found =>
    laysOut.facets spec known entry.1 (.constraint member) facet found) given named closed composed

end FacetedQuery
