import FacetedQuery.Proofs.Assembly.Layout
import FacetedQuery.Proofs.ConstraintBlock.Refusal

/-!
# Outcomes of requests

A request for which a portal is laid out is answered with a valid query or refused for a reason:
what is asked for is not there, a page, an order or an IRI is malformed, or a constraint is refused.
-/

namespace FacetedQuery

open ConstraintBlock (Refused compose)
open Outcome (bind_eq_error bind_eq_ok bind_of_ok mapError_eq_error mapError_eq_ok)
open Rdf (Iri)
open Template (fillAll fillAll_fill fillAll_nil text_ofText)

/-- Why a request is refused. -/
inductive Refusal (portal : Portal) : Request → Fault → Prop where
  | countClass {resultClass : String} {constraints : Option ConstraintSet}
      {fault : ConfigurationFault} : portal.resultClass resultClass = .error fault →
      Refusal portal (.count resultClass constraints) (.configuration fault)
  | countConstraints {resultClass : String} {constraints : Option ConstraintSet} {fault : Fault} :
      Refused portal resultClass "id" constraints fault →
      Refusal portal (.count resultClass constraints) fault
  | pageClass {resultClass : String} {constraints : Option ConstraintSet} {page : Page}
      {order : SortOrder} {fault : ConfigurationFault} :
      portal.resultClass resultClass = .error fault →
      Refusal portal (.resultSet resultClass constraints page order) (.configuration fault)
  | page {resultClass : String} {constraints : Option ConstraintSet} {page : Page}
      {order : SortOrder} {fault : ValidationFault} : page.window = .error fault →
      Refusal portal (.resultSet resultClass constraints page order) (.validation fault)
  | order {resultClass : String} {constraints : Option ConstraintSet} {page : Page}
      {order : SortOrder} {spec : ResultClass} {fault : ConfigurationFault} :
      portal.resultClass resultClass = .ok spec → SortClauses.ofOrder spec order = .error fault →
      Refusal portal (.resultSet resultClass constraints page order) (.configuration fault)
  | pageConstraints {resultClass : String} {constraints : Option ConstraintSet} {page : Page}
      {order : SortOrder} {fault : Fault} : Refused portal resultClass "id" constraints fault →
      Refusal portal (.resultSet resultClass constraints page order) fault
  | listing {resultClass : String} {requested : Option String} {constraints : Option ConstraintSet}
      {groupBy : Bool} {fault : ConfigurationFault} : portal.listing resultClass = .error fault →
      Refusal portal (.listing resultClass requested constraints groupBy) (.configuration fault)
  | listingConstraints {resultClass : String} {requested : Option String}
      {constraints : Option ConstraintSet} {groupBy : Bool} {route : ListingRoute} {fault : Fault} :
      portal.listing resultClass = .ok route →
      Refused portal (Assembler.facetClass requested route.facetClass resultClass)
        route.filterTarget constraints fault →
      Refusal portal (.listing resultClass requested constraints groupBy) fault
  | lookup {resultClass : String} {requested : Option String} {constraints : Option ConstraintSet}
      {uri : String} {fault : ConfigurationFault} : portal.lookup resultClass = .error fault →
      Refusal portal (.lookup resultClass requested constraints uri) (.configuration fault)
  | lookupIri {resultClass : String} {requested : Option String}
      {constraints : Option ConstraintSet} {uri : String} {fault : Rdf.IriFault} :
      Iri.ofText uri = .error fault →
      Refusal portal (.lookup resultClass requested constraints uri)
        (.validation (.invalidIri uri fault))
  | lookupConstraints {resultClass : String} {requested : Option String}
      {constraints : Option ConstraintSet} {uri : String} {route : LookupRoute} {fault : Fault} :
      portal.lookup resultClass = .ok route →
      Refused portal (Assembler.facetClass requested route.facetClass resultClass) "related__id"
        constraints fault →
      Refusal portal (.lookup resultClass requested constraints uri) fault

namespace Assembler

variable {assembler : Assembler} {resultClass : String} {constraints : Option ConstraintSet}
  {block : ConstraintBlock} {spec : ResultClass}

theorem complete_eq_ok {name body text : String} : assembler.complete name body = .ok text ↔
    (assembler.validates = true →
      Sparql.isQuery (assembler.portal.prefixDeclarations ++ body) = true) ∧
      assembler.portal.prefixDeclarations ++ body = text := by
  unfold complete
  dsimp only
  generalize Sparql.isQuery (assembler.portal.prefixDeclarations ++ body) = valid
  cases assembler.validates <;> cases valid <;> simp

theorem complete_eq_error {name body : String} {fault : ConfigurationFault} :
    assembler.complete name body = .error fault ↔ assembler.validates = true ∧
      Sparql.isQuery (assembler.portal.prefixDeclarations ++ body) = false ∧
      .invalidQuery name .grammar = fault := by
  unfold complete
  dsimp only
  generalize Sparql.isQuery (assembler.portal.prefixDeclarations ++ body) = valid
  cases assembler.validates <;> cases valid <;> simp

/-- A request is assembled exactly if its body is made and becomes a query. -/
theorem assemble_eq_ok {request : Request} {query : AssembledQuery} :
    assembler.assemble request = .ok query ↔ ∃ built, assembler.body request = .ok built ∧
      (assembler.validates = true →
        Sparql.isQuery (assembler.portal.prefixDeclarations ++ built.text) = true) ∧
      { built with text := assembler.portal.prefixDeclarations ++ built.text } = query := by
  constructor
  · intro assembled
    obtain ⟨built, isBuilt, further⟩ := bind_eq_ok.mp assembled
    obtain ⟨text, completed, same⟩ := bind_eq_ok.mp further
    obtain ⟨valid, rfl⟩ := complete_eq_ok.mp (mapError_eq_ok.mp completed)
    exact ⟨built, isBuilt, valid, Except.ok.inj same⟩
  · rintro ⟨built, isBuilt, valid, rfl⟩
    have completed := (@complete_eq_ok assembler request.purpose.name _ _).mpr ⟨valid, rfl⟩
    exact bind_eq_ok.mpr ⟨built, isBuilt, bind_eq_ok.mpr ⟨_, mapError_eq_ok.mpr completed, rfl⟩⟩

/-- A valid query, or a fault for which a request is refused. -/
inductive Settles (assembler : Assembler) (request : Request) : Except Fault String → Prop where
  | query {body : String} :
      Sparql.isQuery (assembler.portal.prefixDeclarations ++ body) = true →
      Settles assembler request (.ok body)
  | refusal {fault : Fault} : Refusal assembler.portal request fault →
      Settles assembler request (.error fault)

namespace Settles

variable {request : Request}

theorem bind {step : Except Fault α} {next : α → Except Fault String}
    (refused : ∀ fault, step = .error fault → Refusal assembler.portal request fault)
    (further : ∀ value, step = .ok value → assembler.Settles request (next value)) :
    assembler.Settles request (step >>= next) := by
  cases outcome : step with
  | error fault => exact .refusal (refused fault outcome)
  | ok value => exact further value outcome

theorem configured {step : Except ConfigurationFault α} {next : α → Except Fault String}
    (refused : ∀ fault, step = .error fault →
      Refusal assembler.portal request (.configuration fault))
    (further : ∀ value, step = .ok value → assembler.Settles request (next value)) :
    assembler.Settles request (Assembler.configured step >>= next) := by
  refine bind (fun fault failed => ?_) fun value made => further value (mapError_eq_ok.mp made)
  obtain ⟨inner, inside, rfl⟩ := mapError_eq_error.mp failed
  exact refused inner inside

/-- The step that fills in the block. -/
theorem fillFilter {facetClass filterTarget : String} {template : Template}
    {next : Template → Except Fault String}
    (refused : ∀ fault, Refused assembler.portal facetClass filterTarget constraints fault →
      Refusal assembler.portal request fault)
    (further : ∀ block : ConstraintBlock,
      compose assembler.portal facetClass constraints filterTarget = .ok block →
      assembler.Settles request (next (template.fill .filter block.render))) :
    assembler.Settles request
      (assembler.fillFilter facetClass constraints filterTarget template >>= next) := by
  cases composed : compose assembler.portal facetClass constraints filterTarget with
  | error fault =>
      rw [fillFilter_of_error composed]
      exact .refusal (refused fault (ConstraintBlock.refused_of_compose composed))
  | ok block =>
      rw [fillFilter_of_ok composed]
      exact further block composed

theorem finish (sound : ∀ declaration ∈ assembler.portal.prefixes, declaration.Sound)
    {text : String} {fills : List (Placeholder × List Char)} {template : Template}
    (arranged : Template.Arranged assembler.portal.prologue fills text)
    (isText : template.text = fillAll fills text.toList) :
    assembler.Settles request (Assembler.configured template.finish) := by
  obtain ⟨body, finished, valid⟩ := arranged.isQuery_finish sound isText
  rw [finished]
  exact .query valid

end Settles

theorem closed_id : Text.Closed "id".toList := by decide

theorem settles_count (laysOut : assembler.portal.LaysOut (.count resultClass constraints)) :
    assembler.Settles (.count resultClass constraints)
      (assembler.countBody resultClass constraints) := by
  refine .configured (fun _ unknown => .countClass unknown) fun spec known => ?_
  refine .fillFilter (fun _ refused => .countConstraints refused) fun block composed => ?_
  let fills : List (Placeholder × List Char) :=
    [(.facetClass, spec.classList.toList), (.filter, block.render.toList)]
  have arranged : Template.Arranged assembler.portal.prologue fills Template.countQuery := by
    have given : fills.lookup .filter = some block.render.toList := rfl
    obtain ⟨place, -⟩ := laysOut.block given Template.named_id closed_id composed
    exact Template.arranged_count (laysOut.frame spec known) rfl place
  refine Settles.finish laysOut.prefixes arranged ?_
  refine (fillAll_nil _).symm.trans ?_
  rw [fillAll_fill, fillAll_fill, text_ofText Template.starts_countQuery]

end Assembler

/-- What a facet is sorted by is one of its paths. -/
theorem SortClauses.exists_named {spec : ResultClass} {facet : Facet} {key path : String}
    {direction : SortDirection} (found : SortClauses.path spec facet key direction = .ok path) :
    ∃ named ∈ facet.paths, named.path = path := by
  unfold SortClauses.path at found
  dsimp only at found
  split at found
  · split at found
    · cases part : facet.timespan.bind (·.sortAscending) with
      | none => simp [part] at found
      | some other =>
          obtain rfl : other = path := by simpa [part] using found
          obtain ⟨paths, isTimespan, isPath⟩ := Option.bind_eq_some_iff.mp part
          exact ⟨⟨"ascending sort predicate", other⟩,
            by simp [Facet.paths, Facet.optionalPath, isTimespan, isPath], rfl⟩
    · cases part : facet.timespan.bind (·.sortDescending) with
      | none => simp [part] at found
      | some other =>
          obtain rfl : other = path := by simpa [part] using found
          obtain ⟨paths, isTimespan, isPath⟩ := Option.bind_eq_some_iff.mp part
          exact ⟨⟨"descending sort predicate", other⟩,
            by simp [Facet.paths, Facet.optionalPath, isTimespan, isPath], rfl⟩
  · cases part : facet.labelPath with
    | none => simp [part] at found
    | some other =>
        obtain rfl : other = path := by simpa [part] using found
        exact ⟨⟨"label path", other⟩, by simp [Facet.paths, Facet.optionalPath, part], rfl⟩

/-- An order can be followed if the facet that it names is presentable. -/
theorem SortClauses.exists_walks {prologue : Sparql.Prologue} {spec : ResultClass}
    {order : SortOrder} {sort : SortClauses}
    (facets : ∀ key, order.key.or spec.defaultSortKey = some key →
      ∀ facet, spec.facet? key = some facet → facet.Presentable prologue)
    (made : SortClauses.ofOrder spec order = .ok sort) :
    ∃ kind, sort.Walks prologue kind := by
  unfold SortClauses.ofOrder at made
  split at made
  · cases made
    exact ⟨none, SortClauses.walks_byId⟩
  · next key isKey =>
    split at made
    · cases made
    · next facet known =>
      obtain ⟨path, found, equality⟩ := bind_eq_ok.mp made
      cases equality
      obtain ⟨named, member, rfl⟩ := SortClauses.exists_named found
      exact ⟨_, SortClauses.walks_byPath ((facets key isKey facet known).paths named member) _⟩

/-- The numbers of a window are of 64 bits. -/
theorem Page.fits {page : Page} {window : Window} (made : page.window = .ok window) :
    window.Fits := by
  unfold Page.window at made
  dsimp only at made
  split at made
  · cases made
  · split at made
    · next inside =>
      cases made
      exact ⟨page.size.toNat_lt, inside⟩
    · cases made

namespace Assembler

variable {assembler : Assembler} {resultClass : String} {constraints : Option ConstraintSet}
  {block : ConstraintBlock} {spec : ResultClass}

theorem settles_resultSet {page : Page} {order : SortOrder}
    (laysOut : assembler.portal.LaysOut (.resultSet resultClass constraints page order)) :
    assembler.Settles (.resultSet resultClass constraints page order)
      (assembler.resultSetBody resultClass constraints page order) := by
  refine .configured (fun _ unknown => .pageClass unknown) fun spec known => ?_
  refine .bind (fun fault failed => ?_) fun window windowed => ?_
  · obtain ⟨inner, malformed, rfl⟩ := mapError_eq_error.mp failed
    exact .page malformed
  have windowed := mapError_eq_ok.mp windowed
  refine .configured (fun _ failed => .order known failed) fun sort sorted => ?_
  refine .fillFilter (fun _ refused => .pageConstraints refused) fun block composed => ?_
  obtain ⟨kind, walks⟩ := SortClauses.exists_walks
    (fun key isKey => laysOut.facets spec known key (.order isKey)) sorted
  let fills := Template.pageFills block.render spec order.direction sort window
  have arranged : Template.Arranged assembler.portal.prologue fills Template.resultSetQuery := by
    have given : fills.lookup .filter = some block.render.toList := rfl
    obtain ⟨place, -⟩ := laysOut.block given Template.named_id closed_id composed
    exact Template.arranged_resultSet (laysOut.frame spec known) walks (Page.fits windowed) place
  refine Settles.finish laysOut.prefixes arranged ?_
  refine (fillAll_nil _).symm.trans ?_
  repeat rw [fillAll_fill]
  rw [text_ofText Template.starts_resultSetQuery]
  rfl

theorem named_related : Template.Named "related__id" := by decide

theorem text_instance (resultClass block : String) (route : LookupRoute) (iri : Iri) :
    ((((Template.ofText resultClass Template.instanceQuery).fill .properties route.properties).fill
      .relatedInstances route.relatedInstances).fill .filter block |>.fill .id iri.render).text =
      fillAll (Template.instanceFills block route iri) Template.instanceQuery.toList := by
  refine (fillAll_nil _).symm.trans ?_
  repeat rw [fillAll_fill]
  rw [text_ofText Template.starts_instanceQuery]
  rfl

/-- The body of a lookup once its block is composed. -/
theorem lookupBody_of_ok {uri : String} {requested : Option String} {route : LookupRoute}
    {iri : Iri} (known : assembler.portal.lookup resultClass = .ok route)
    (isIri : Iri.ofText uri = .ok iri)
    (composed : ConstraintBlock.compose assembler.portal
      (facetClass requested route.facetClass resultClass) constraints "related__id" = .ok block) :
    assembler.lookupBody resultClass requested constraints uri =
      configured ((((Template.ofText resultClass Template.instanceQuery).fill .properties
        route.properties).fill .relatedInstances route.relatedInstances).fill .filter
          block.render |>.fill .id iri.render).finish :=
  (bind_of_ok (mapError_eq_ok.mpr known)).trans
    ((bind_of_ok (mapError_eq_ok.mpr isIri)).trans (bind_of_ok (fillFilter_of_ok composed _)))

theorem settles_lookup {requested : Option String} {uri : String}
    (laysOut : assembler.portal.LaysOut (.lookup resultClass requested constraints uri)) :
    assembler.Settles (.lookup resultClass requested constraints uri)
      (assembler.lookupBody resultClass requested constraints uri) := by
  refine .configured (fun _ unknown => .lookup unknown) fun route known => ?_
  refine .bind (fun fault failed => ?_) fun iri isIri => ?_
  · obtain ⟨inner, malformed, rfl⟩ := mapError_eq_error.mp failed
    exact .lookupIri malformed
  refine .fillFilter (fun _ refused => .lookupConstraints known refused) fun block composed => ?_
  have isFacetClass := Portal.facetClass_lookup requested constraints known uri
  have place : ∀ {fills : List (Placeholder × List Char)},
      fills.lookup .filter = some block.render.toList →
      Template.Passage assembler.portal.prologue fills [Placeholder.filter.token]
        (Clause.Pattern.listScope block.elements) [] :=
    fun given => (laysOut.block given named_related (by decide) (isFacetClass ▸ composed)).1
  have arranged : Template.Arranged assembler.portal.prologue
      (Template.instanceFills block.render route iri) Template.instanceQuery :=
    Template.arranged_instance assembler.portal.prologue_base (laysOut.frame route known) place
  exact .finish laysOut.prefixes arranged (text_instance resultClass block.render route iri)

/-- A query around a block, with what is filled before the block. -/
theorem settles_aroundBlock {request : Request} (laysOut : assembler.portal.LaysOut request)
    {name text filterTarget : String} {given : List (Placeholder × List Char)}
    (around : Template.AroundBlock assembler.portal.prologue filterTarget given text)
    {template : Template} (isText : ∀ fills, fillAll fills template.text =
      fillAll (given ++ fills) (Template.ofText name text).text)
    (apart : given.lookup .filter = none) (named : Template.Named filterTarget)
    (closed : Text.Closed filterTarget.toList)
    (refused : ∀ fault, Refused assembler.portal (assembler.portal.facetClass request) filterTarget
      request.constraints fault → Refusal assembler.portal request fault) :
    assembler.Settles request (do
      configured (← assembler.fillFilter (assembler.portal.facetClass request) request.constraints
        filterTarget template).finish) := by
  refine .fillFilter refused fun block composed => ?_
  obtain ⟨starts, arranged⟩ := around
  have arranged : Template.Arranged assembler.portal.prologue
      (given ++ [(.filter, block.render.toList)]) text := by
    have place : (given ++ [(Placeholder.filter, block.render.toList)]).lookup .filter =
        some block.render.toList := by
      rw [List.lookup_append, apart]
      rfl
    obtain ⟨passage, names⟩ := laysOut.block place named closed composed
    exact arranged passage names
  refine .finish laysOut.prefixes arranged ?_
  refine (fillAll_nil _).symm.trans ?_
  rw [fillAll_fill, isText, text_ofText starts]

theorem settles_listing {requested : Option String} {groupBy : Bool}
    (laysOut : assembler.portal.LaysOut (.listing resultClass requested constraints groupBy)) :
    assembler.Settles (.listing resultClass requested constraints groupBy) (do
      let route ← configured (assembler.portal.listing resultClass)
      assembler.listingBody route resultClass requested constraints groupBy) := by
  refine .configured (fun _ unknown => .listing unknown) fun route known => ?_
  obtain ⟨-, rfl⟩ := Portal.mem_of_listing known
  have isRoute := laysOut.frame route known
  have framed := isRoute.query
  have refused : ∀ fault, Refused assembler.portal (assembler.portal.facetClass
      (.listing route.resultClass requested constraints groupBy)) route.filterTarget
        constraints fault →
      Refusal assembler.portal (.listing route.resultClass requested constraints groupBy) fault :=
    fun _ refused => .listingConstraints known
      (Portal.facetClass_listing requested constraints known groupBy ▸ refused)
  unfold listingBody
  rw [← Portal.facetClass_listing requested constraints known groupBy]
  cases query : (route.variant groupBy).query with
  | plain text =>
      rw [query] at framed
      cases framed with
      | plain around =>
          exact settles_aroundBlock laysOut around (fun _ => rfl) rfl isRoute.target
            isRoute.closed refused
  | timeBuckets template startYear endYear periodLength =>
      rw [query] at framed
      cases framed with
      | timeBuckets periods around =>
          have made : configured (listingTemplate route.resultClass
              (.timeBuckets template startYear endYear periodLength)) = .ok _ :=
            mapError_eq_ok.mpr (bind_eq_ok.mpr ⟨_, periods, rfl⟩)
          rw [made]
          exact settles_aroundBlock laysOut around (fun _ => rfl) rfl isRoute.target
            isRoute.closed refused

theorem settles_body {request : Request} (laysOut : assembler.portal.LaysOut request) :
    assembler.Settles request ((assembler.body request).map AssembledQuery.text) := by
  have keep : ∀ {outcome : Except Fault String} {shape : ResultShape},
      assembler.Settles request outcome →
      assembler.Settles request
        ((outcome >>= fun text => .ok ⟨text, shape⟩).map AssembledQuery.text) := by
    intro outcome shape settles
    cases outcome <;> exact settles
  cases request with
  | count resultClass constraints => exact keep (settles_count laysOut)
  | resultSet resultClass constraints page order => exact keep (settles_resultSet laysOut)
  | listing resultClass requested constraints groupBy =>
      have settles := settles_listing laysOut
      change assembler.Settles _
        ((configured (assembler.portal.listing resultClass) >>= fun route =>
        assembler.listingBody route resultClass requested constraints groupBy >>= fun text =>
          .ok ⟨text, (route.variant groupBy).shape⟩).map AssembledQuery.text)
      cases known : configured (assembler.portal.listing resultClass) with
      | error fault =>
          rw [known] at settles
          exact settles
      | ok route =>
          rw [known] at settles
          exact keep settles
  | lookup resultClass requested constraints uri =>
      exact keep (settles_lookup laysOut)

/-- A presentable portal answers with a valid query or refuses the request for a reason. -/
theorem assemble_presentable (presentable : assembler.portal.Presentable) (request : Request) :
    (∃ query, assembler.assemble request = .ok query ∧ Sparql.isQuery query.text = true) ∨
      ∃ fault, assembler.assemble request = .error fault ∧
        Refusal assembler.portal request fault := by
  have settles := settles_body (presentable.laysOut request)
  cases made : assembler.body request with
  | error fault =>
      rw [made] at settles
      cases settles with
      | refusal refused =>
          exact .inr ⟨fault, bind_eq_error.mpr (.inl made), refused⟩
  | ok query =>
      rw [made] at settles
      cases settles with
      | query valid =>
          exact .inl ⟨_, assemble_eq_ok.mpr ⟨query, made, fun _ => valid, rfl⟩, valid⟩

end Assembler

/-- The ids of nodes as they stand in a query. -/
def idSet (ids : List Iri) : String :=
  Text.join " " (ids.map Iri.render)

/-- A query for nodes that is arranged around their ids. -/
structure Portal.FitsIds (portal : Portal) (nodesQuery : String) (ids : List Iri) : Prop where
  prefixes : ∀ declaration ∈ portal.prefixes, declaration.Sound
  starts : nodesQuery.toList.head? ≠ some '\n'
  arranged : Template.Arranged portal.prologue [(.idSet, (idSet ids).toList)] nodesQuery

theorem Portal.FitsIds.isQuery_finish {portal : Portal} {nodesQuery : String} {ids : List Iri}
    (fits : portal.FitsIds nodesQuery ids) :
    ∃ body, ((Template.ofText "network nodes" nodesQuery).fill .idSet (idSet ids)).finish =
        .ok body ∧ Sparql.isQuery (portal.prefixDeclarations ++ body) = true := by
  refine fits.arranged.isQuery_finish fits.prefixes ((fillAll_nil _).symm.trans ?_)
  rw [fillAll_fill, text_ofText fits.starts]

end FacetedQuery
