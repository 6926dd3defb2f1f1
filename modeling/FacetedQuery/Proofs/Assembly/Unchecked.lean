import FacetedQuery.Proofs.Assembly.Absent
import FacetedQuery.Proofs.Portal.Validation

/-!
# What the checks of a portal leave open

A portal is checked without constraints.  A request that names no class of facets itself, and whose
constraints suit the class of the route, may then find only few faults of the deployment, each of
which has a cause that the checks do not look at.
-/

namespace FacetedQuery

open ConstraintBlock (Refused active checkValue compose)
open Outcome (bind_eq_error bind_eq_ok mapError_eq_error mapError_eq_ok)
open Rdf (Variable)
open Template (Free holdsOnly_nil)

/-- The class whose facets interpret the constraints of a request that names none itself, and the
variable that they restrict. -/
inductive Portal.Reads (portal : Portal) : Request → String → String → Prop where
  | count {resultClass : String} {constraints : Option ConstraintSet} {spec : ResultClass} :
      portal.resultClass resultClass = .ok spec →
      Reads portal (.count resultClass constraints) resultClass "id"
  | resultSet {resultClass : String} {constraints : Option ConstraintSet} {page : Page}
      {order : SortOrder} {spec : ResultClass} : portal.resultClass resultClass = .ok spec →
      Reads portal (.resultSet resultClass constraints page order) resultClass "id"
  | listing {resultClass : String} {constraints : Option ConstraintSet} {groupBy : Bool}
      {route : ListingRoute} : portal.listing resultClass = .ok route →
      Reads portal (.listing resultClass none constraints groupBy)
        (route.facetClass.getD resultClass) route.filterTarget
  | lookup {resultClass uri : String} {constraints : Option ConstraintSet} {route : LookupRoute} :
      portal.lookup resultClass = .ok route →
      Reads portal (.lookup resultClass none constraints uri)
        (route.facetClass.getD resultClass) "related__id"

/-- The class, if it is there, has the facet of a constraint, which takes its kind and its value. -/
def ConstraintBlock.Suits (portal : Portal) (facetClass : String) (entry : String × Constraint) :
    Prop :=
  ∀ spec, portal.resultClass facetClass = .ok spec →
    ∃ facet value, spec.facet? entry.1 = some facet ∧ checkValue facet entry.2 = .ok value

/-- A request with constraints, or for a page or an entity of its own. -/
def Request.Departs (request : Request) : Prop :=
  active request.constraints ≠ [] ∨ request.purpose = .resultSet ∨ request.purpose = .lookup

/-- A fault of the deployment whose cause is not checked. -/
inductive Assembler.Unchecked (assembler : Assembler) (request : Request)
    (facetClass filterTarget : String) : ConfigurationFault → Prop where
  /-- The route names no class, and none has the id of the route. -/
  | noClass : active request.constraints ≠ [] → facetClass = request.resultClass →
      (∀ spec, assembler.portal.resultClass facetClass ≠ .ok spec) →
      Unchecked assembler request facetClass filterTarget (.unknownResultClass facetClass)
  | illegalTarget : active request.constraints ≠ [] → Variable.ofName? filterTarget = none →
      Unchecked assembler request facetClass filterTarget (.invalidVariableName filterTarget)
  /-- The facet lacks a path that its filter needs. -/
  | lacks {spec : ResultClass} {entry : String × Constraint} {facet : Facet} {value : FilterValue}
      {fault : ConfigurationFault} : assembler.portal.resultClass facetClass = .ok spec →
      entry ∈ active request.constraints → spec.facet? entry.1 = some facet →
      checkValue facet entry.2 = .ok value → Filter.Lacks facetClass facet value fault →
      fault ≠ .invalidVariableName facet.id →
      Unchecked assembler request facetClass filterTarget fault
  /-- The page is to be sorted by a key that does not sort the class. -/
  | order {resultClass : String} {constraints : Option ConstraintSet} {page : Page}
      {order : SortOrder} {spec : ResultClass} {fault : ConfigurationFault} :
      request = .resultSet resultClass constraints page order →
      assembler.portal.resultClass resultClass = .ok spec → order.key ≠ none →
      SortClauses.ofOrder spec order = .error fault →
      Unchecked assembler request facetClass filterTarget fault
  /-- A path of a facet holds a placeholder. -/
  | placeholder {spec : ResultClass} {id template token : String} {facet : Facet}
      {named : NamedPath} : assembler.portal.resultClass facetClass = .ok spec →
      request.Names spec id → spec.facet? id = some facet → named ∈ facet.paths →
      ¬BarePath named.path →
      Unchecked assembler request facetClass filterTarget (.unresolvedPlaceholder template token)
  /-- What the request reads, its own template and the facets that it names, is not laid out, and it
  does not make a query. -/
  | grammar {query : AssembledQuery} : assembler.validates = true →
      ¬assembler.portal.LaysOut request → request.Departs → assembler.body request = .ok query →
      Sparql.isQuery (assembler.portal.prefixDeclarations ++ query.text) = false →
      Unchecked assembler request facetClass filterTarget
        (.invalidQuery request.purpose.name .grammar)

/-- A class that a route names is there, so that only the class of the route itself may be
missing. -/
theorem Portal.Reads.routed {portal : Portal} {request : Request} {facetClass filterTarget : String}
    (reads : portal.Reads request facetClass filterTarget) (valid : portal.validate = .ok ()) :
    facetClass = request.resultClass ∨ ∃ spec, portal.resultClass facetClass = .ok spec := by
  cases reads with
  | count => exact .inl rfl
  | resultSet => exact .inl rfl
  | @listing _ _ _ route known =>
      cases routed : route.facetClass with
      | none => exact .inl rfl
      | some id => exact .inr (class_of_listing valid (mem_of_listing known).1 routed)
  | @lookup _ _ _ route known =>
      cases routed : route.facetClass with
      | none => exact .inl rfl
      | some id => exact .inr (class_of_lookup valid (mem_of_lookup known).1 routed)

namespace Assembler

variable {assembler : Assembler} {request : Request} {facetClass filterTarget : String}
  {fault : ConfigurationFault} {block : ConstraintBlock}

theorem unchecked_of_refused (valid : assembler.portal.validate = .ok ())
    (reads : assembler.portal.Reads request facetClass filterTarget)
    (suits : ∀ entry ∈ active request.constraints,
      ConstraintBlock.Suits assembler.portal facetClass entry)
    (refused : Refused assembler.portal facetClass filterTarget request.constraints
      (.configuration fault)) :
    assembler.Unchecked request facetClass filterTarget fault := by
  cases refused with
  | unknownClass nonempty unknown =>
      obtain ⟨noClass, rfl⟩ := Portal.resultClass_eq_error.mp unknown
      rcases reads.routed valid with same | ⟨spec, known⟩
      · exact .noClass nonempty same noClass
      · exact absurd known (noClass spec)
  | illegalTarget nonempty illegal => exact .illegalTarget nonempty illegal
  | @unsuited spec entry _ known inside unsuited =>
      obtain ⟨facet, value, isFacet, checked⟩ := suits entry inside spec known
      cases unsuited with
      | unknownFacet unknown => cases isFacet.symm.trans (ResultClass.facet_eq_error.mp unknown).1
      | lacks found isValue lacks =>
          refine .lacks known inside (ResultClass.facet_eq_ok.mp found) isValue lacks ?_
          rintro rfl
          cases lacks with
          | illegalVariable suffix illegal =>
              exact Portal.variable_of_facet valid (ConstraintBlock.Portal.mem_of_resultClass known)
                (List.mem_of_find?_eq_some (ResultClass.facet_eq_ok.mp found)) suffix illegal

/-- The paths of the facets that a request names hold no placeholder. -/
def BareFor (assembler : Assembler) (request : Request) (facetClass : String) : Prop :=
  ∀ spec, assembler.portal.resultClass facetClass = .ok spec → ∀ id, request.Names spec id →
    ∀ facet, spec.facet? id = some facet → ∀ named ∈ facet.paths, BarePath named.path

theorem BareFor.free_block (bare : assembler.BareFor request facetClass)
    (composed : compose assembler.portal facetClass request.constraints filterTarget = .ok block) :
    Free block.render.toList :=
  ConstraintBlock.free_of_named
    (fun spec known entry member => bare spec known entry.1 (.constraint member)) composed

/-- A template that can be finished if the paths are bare. -/
theorem unchecked_of_finish {template : Template} (failed : template.finish = .error fault)
    (finishes : assembler.BareFor request facetClass → ∃ body, template.finish = .ok body) :
    assembler.Unchecked request facetClass filterTarget fault := by
  by_cases bare : assembler.BareFor request facetClass
  · obtain ⟨body, finished⟩ := finishes bare
    cases failed.symm.trans finished
  · simp only [BareFor, Classical.not_forall] at bare
    obtain ⟨spec, known, id, named, facet, isFacet, path, inside, held⟩ := bare
    unfold Template.finish at failed
    split at failed
    · cases failed
      exact .placeholder known named isFacet inside held
    · cases failed

variable {resultClass : String} {constraints : Option ConstraintSet}

/-- The steps of a body behind which a block is filled in. -/
theorem fault_of_fillFilter {template : Template} {fault : Fault}
    (failed : (assembler.fillFilter facetClass constraints filterTarget template >>= fun filled =>
      configured filled.finish) = .error fault) :
    Refused assembler.portal facetClass filterTarget constraints fault ∨
      ∃ block inner, compose assembler.portal facetClass constraints filterTarget = .ok block ∧
        (template.fill .filter block.render).finish = .error inner ∧ fault =
          .configuration inner := by
  rcases bind_eq_error.mp failed with failed | ⟨filled, made, failed⟩
  · rcases bind_eq_error.mp failed with failed | ⟨block, composed, failed⟩
    · exact .inl (ConstraintBlock.refused_of_compose failed)
    · cases failed
  · obtain ⟨block, composed, same⟩ := bind_eq_ok.mp made
    cases same
    obtain ⟨inner, unfinished, rfl⟩ := mapError_eq_error.mp failed
    exact .inr ⟨block, inner, composed, unfinished, rfl⟩

section

variable (valid : assembler.portal.validate = .ok ())
  (suits : ∀ entry ∈ active constraints, ConstraintBlock.Suits assembler.portal facetClass entry)

include valid suits

theorem unchecked_of_count {spec : ResultClass}
    (known : assembler.portal.resultClass facetClass = .ok spec)
    (failed : assembler.countBody facetClass constraints = .error (.configuration fault)) :
    assembler.Unchecked (.count facetClass constraints) facetClass "id" fault := by
  cases composed : compose assembler.portal facetClass constraints "id" with
  | error problem =>
      cases (countBody_of_error known composed).symm.trans failed
      exact unchecked_of_refused valid (.count known) suits
        (ConstraintBlock.refused_of_compose composed)
  | ok block =>
      rw [countBody_of_ok known composed] at failed
      obtain ⟨inner, unfinished, same⟩ := mapError_eq_error.mp failed
      cases same
      refine unchecked_of_finish unfinished fun bare => ?_
      have only := Portal.holdsOnly_count valid known
      have free := holdsOnly_nil.mp
        (only.filled block.sealed_render (bare.free_block composed) [])
      rw [← Template.fillAll_concat] at free
      exact ⟨_, Template.finish_text_of_free "count" free⟩

theorem unchecked_of_resultSet {spec : ResultClass} {page : Page} {order : SortOrder}
    (known : assembler.portal.resultClass facetClass = .ok spec)
    (failed : assembler.resultSetBody facetClass constraints page order =
      .error (.configuration fault)) :
    assembler.Unchecked (.resultSet facetClass constraints page order) facetClass "id" fault := by
  have behindClass := Outcome.next_eq_error (mapError_eq_ok.mpr known) failed
  rcases bind_eq_error.mp behindClass with malformed | ⟨window, windowed, behindWindow⟩
  · obtain ⟨inner, -, same⟩ := mapError_eq_error.mp malformed
    cases same
  have windowed := mapError_eq_ok.mp windowed
  rcases bind_eq_error.mp behindWindow with unsorted | ⟨sort, sorted, -⟩
  · obtain ⟨inner, unsorted, same⟩ := mapError_eq_error.mp unsorted
    cases same
    refine .order rfl known (fun byDefault => ?_) unsorted
    obtain ⟨key, direction⟩ := order
    obtain rfl : key = none := byDefault
    obtain ⟨_, _, _, sorted, -⟩ := Portal.exists_page valid known direction
    cases unsorted.symm.trans sorted
  have sorted := mapError_eq_ok.mp sorted
  cases composed : compose assembler.portal facetClass constraints "id" with
  | error problem =>
      cases (resultSetBody_of_error known windowed sorted composed).symm.trans failed
      exact unchecked_of_refused valid (.resultSet known) suits
        (ConstraintBlock.refused_of_compose composed)
  | ok block =>
      rw [resultSetBody_of_ok known windowed sorted composed] at failed
      obtain ⟨inner, unfinished, same⟩ := mapError_eq_error.mp failed
      cases same
      refine unchecked_of_finish unfinished fun bare => ?_
      have triple := SortClauses.free_triple sorted fun key facet isKey found =>
        bare spec known key (.order isKey) facet found
      obtain ⟨body, _, _, _, finished, -⟩ := @Template.finish_resultSet block.render spec sort
        window order (bare.free_block composed) (Portal.free_classList valid known)
        (Portal.free_properties valid known) triple sorted
      exact ⟨body, finished⟩

theorem unchecked_of_listing {resultClass : String} {groupBy : Bool} {route : ListingRoute}
    (known : assembler.portal.listing resultClass = .ok route)
    (reads : facetClass = route.facetClass.getD resultClass)
    (failed : assembler.listingBody route resultClass none constraints groupBy =
      .error (.configuration fault)) :
    assembler.Unchecked (.listing resultClass none constraints groupBy) facetClass
      route.filterTarget fault := by
  subst reads
  obtain ⟨⟨template, isTemplate, only⟩, -⟩ := Portal.holdsOnly_listing valid known groupBy
  have behind : listingBody assembler route resultClass none constraints groupBy =
      (assembler.fillFilter (route.facetClass.getD resultClass) constraints route.filterTarget
        template >>= fun filled => configured filled.finish) :=
    Outcome.bind_of_ok (mapError_eq_ok.mpr isTemplate)
  rcases fault_of_fillFilter (behind.symm.trans failed) with
    refused | ⟨block, inner, composed, unfinished, same⟩
  · exact unchecked_of_refused valid (.listing known) suits refused
  · cases same
    refine unchecked_of_finish unfinished fun bare => ?_
    have free := only.filled block.sealed_render (bare.free_block composed) []
    exact ⟨_, Template.finish_of_free (holdsOnly_nil.mp free)⟩

theorem unchecked_of_lookup {resultClass uri : String} {route : LookupRoute}
    (known : assembler.portal.lookup resultClass = .ok route)
    (reads : facetClass = route.facetClass.getD resultClass)
    (failed : assembler.lookupBody resultClass none constraints uri =
      .error (.configuration fault)) :
    assembler.Unchecked (.lookup resultClass none constraints uri) facetClass
      "related__id" fault := by
  subst reads
  have behindRoute := Outcome.next_eq_error (mapError_eq_ok.mpr known) failed
  rcases bind_eq_error.mp behindRoute with malformed | ⟨iri, isIri, -⟩
  · obtain ⟨inner, -, same⟩ := mapError_eq_error.mp malformed
    cases same
  have isIri := mapError_eq_ok.mp isIri
  cases composed : compose assembler.portal (route.facetClass.getD resultClass) constraints
      "related__id" with
  | error problem =>
      have refused := ConstraintBlock.refused_of_compose composed
      have body : assembler.lookupBody resultClass none constraints uri = .error problem :=
        (Outcome.bind_of_ok (mapError_eq_ok.mpr known)).trans <|
          (Outcome.bind_of_ok (mapError_eq_ok.mpr isIri)).trans
            (Outcome.bind_of_error (fillFilter_of_error composed _))
      cases body.symm.trans failed
      exact unchecked_of_refused valid (.lookup known) suits refused
  | ok block =>
      have composedHere : compose assembler.portal
        (Assembler.facetClass none route.facetClass resultClass) constraints "related__id" =
          .ok block := composed
      rw [lookupBody_of_ok known isIri composedHere] at failed
      obtain ⟨inner, unfinished, same⟩ := mapError_eq_error.mp failed
      cases same
      refine unchecked_of_finish unfinished fun bare => ?_
      have only := Portal.holdsOnly_lookup valid known
      have free := (only.filled block.sealed_render (bare.free_block composed) []).filled
        (Clause.sealed_iri iri) (Clause.free_iri iri) []
      exact ⟨_, Template.finish_of_free (holdsOnly_nil.mp free)⟩

end

theorem fillFilter_of_inactive (nothing : active constraints = []) (template : Template) :
    assembler.fillFilter facetClass constraints filterTarget template =
      assembler.fillFilter facetClass none filterTarget template :=
  (fillFilter_of_ok (compose_of_inactive nothing) template).trans
    (fillFilter_of_ok rfl template).symm

theorem body_count (nothing : active constraints = []) :
    assembler.body (.count resultClass constraints) =
    (Assembler.mk assembler.portal true).body (.count resultClass none) := by
  simp only [body, countBody, fillFilter_of_inactive nothing]
  rfl

theorem body_listing {groupBy : Bool} (nothing : active constraints = []) :
    assembler.body (.listing resultClass none constraints groupBy) =
      (Assembler.mk assembler.portal true).body (.listing resultClass none none groupBy) := by
  simp only [body, listingBody, fillFilter_of_inactive nothing]
  rfl

theorem isQuery_of_assemble {portal : Portal} {query : AssembledQuery}
    (assembled : (Assembler.mk portal true).assemble request = .ok query) :
    ∃ built, (Assembler.mk portal true).body request = .ok built ∧
      Sparql.isQuery (portal.prefixDeclarations ++ built.text) = true := by
  obtain ⟨built, isBuilt, valid, -⟩ := assemble_eq_ok.mp assembled
  exact ⟨built, isBuilt, valid rfl⟩

/-- The query of a count or of a listing without constraints is one that was checked. -/
theorem isQuery_of_not_departs (valid : assembler.portal.validate = .ok ())
    (reads : assembler.portal.Reads request facetClass filterTarget) (checked : ¬request.Departs)
    {query : AssembledQuery} (built : assembler.body request = .ok query) :
    Sparql.isQuery (assembler.portal.prefixDeclarations ++ query.text) = true := by
  have nothing : active request.constraints = [] :=
    Classical.not_not.mp fun blamed => checked (.inl blamed)
  cases reads with
  | count known =>
      obtain ⟨_, assembled⟩ := Portal.assembles_count valid known
      obtain ⟨other, isOther, isQuery⟩ := isQuery_of_assemble assembled
      cases built.symm.trans ((body_count nothing).trans isOther)
      exact isQuery
  | resultSet => exact absurd (.inr (.inl rfl)) checked
  | lookup => exact absurd (.inr (.inr rfl)) checked
  | listing known =>
      obtain ⟨_, assembled, -⟩ := Portal.assembles_listing valid known _
      obtain ⟨other, isOther, isQuery⟩ := isQuery_of_assemble assembled
      cases built.symm.trans ((body_listing nothing).trans isOther)
      exact isQuery

theorem isQuery_of_laysOut (laysOut : assembler.portal.LaysOut request) {query : AssembledQuery}
    (built : assembler.body request = .ok query) :
    Sparql.isQuery (assembler.portal.prefixDeclarations ++ query.text) = true := by
  have settles := settles_body laysOut
  rw [built] at settles
  cases settles with
  | query valid => exact valid

theorem unchecked_of_body (valid : assembler.portal.validate = .ok ())
    (reads : assembler.portal.Reads request facetClass filterTarget)
    (suits : ∀ entry ∈ active request.constraints,
      ConstraintBlock.Suits assembler.portal facetClass entry)
    (failed : assembler.body request = .error (.configuration fault)) :
    assembler.Unchecked request facetClass filterTarget fault := by
  cases reads with
  | count known =>
      rcases bind_eq_error.mp failed with failed | ⟨_, -, failed⟩
      · exact unchecked_of_count valid suits known failed
      · cases failed
  | resultSet known =>
      rcases bind_eq_error.mp failed with failed | ⟨_, -, failed⟩
      · exact unchecked_of_resultSet valid suits known failed
      · cases failed
  | listing known =>
      have behindRoute := Outcome.next_eq_error (mapError_eq_ok.mpr known) failed
      rcases bind_eq_error.mp behindRoute with failed | ⟨_, -, failed⟩
      · exact unchecked_of_listing valid suits known rfl failed
      · cases failed
  | lookup known =>
      rcases bind_eq_error.mp failed with failed | ⟨_, -, failed⟩
      · exact unchecked_of_lookup valid suits known rfl failed
      · cases failed

/-- A fault of the deployment or of the request, which shows before anything is sent. -/
def Early : Fault → Prop
  | .configuration _ => True
  | .validation _ => True
  | _ => False

theorem early_configured (outcome : Except ConfigurationFault α) :
    Outcome.Blames Early (configured outcome) := by
  intro fault failed
  obtain ⟨inner, -, rfl⟩ := mapError_eq_error.mp failed
  trivial

theorem early_mapError {ε α : Type} {change : ε → ValidationFault} (outcome : Except ε α) :
    Outcome.Blames Early (outcome.mapError fun problem => .validation (change problem)) := by
  intro fault failed
  obtain ⟨inner, -, rfl⟩ := mapError_eq_error.mp failed
  trivial

theorem early_fillFilter (template : Template) : Outcome.Blames Early
    (assembler.fillFilter facetClass constraints filterTarget template) := by
  refine Outcome.Blames.bind (fun fault failed => ?_) fun _ => Outcome.blames_ok _
  cases ConstraintBlock.refused_of_compose failed with
  | unknownClass => trivial
  | illegalTarget => trivial
  | unsuited _ _ unsuited => cases unsuited <;> trivial

theorem early_body (request : Request) : Outcome.Blames Early (assembler.body request) := by
  cases request with
  | count resultClass constraints =>
      refine Outcome.Blames.bind ?_ fun _ => Outcome.blames_ok _
      exact (early_configured _).bind fun _ => (early_fillFilter _).bind fun _ => early_configured _
  | resultSet resultClass constraints page order =>
      refine Outcome.Blames.bind ?_ fun _ => Outcome.blames_ok _
      exact (early_configured _).bind fun _ => (early_mapError page.window).bind fun _ =>
        (early_configured _).bind fun _ => (early_fillFilter _).bind fun _ => early_configured _
  | listing resultClass requested constraints groupBy =>
      refine (early_configured _).bind fun _ => ?_
      refine Outcome.Blames.bind ?_ fun _ => Outcome.blames_ok _
      exact (early_configured _).bind fun _ => (early_fillFilter _).bind fun _ => early_configured _
  | lookup resultClass requested constraints uri =>
      refine Outcome.Blames.bind ?_ fun _ => Outcome.blames_ok _
      exact (early_configured _).bind fun _ => (early_mapError _).bind fun _ =>
        (early_fillFilter _).bind fun _ => early_configured _

theorem early_assemble (request : Request) : Outcome.Blames Early (assembler.assemble request) :=
  (early_body request).bind fun _ => (early_configured _).bind fun _ => Outcome.blames_ok _

/-- A valid portal finds a fault of the deployment only for a cause that is not checked. -/
theorem unchecked_of_assemble (valid : assembler.portal.validate = .ok ())
    (reads : assembler.portal.Reads request facetClass filterTarget)
    (suits : ∀ entry ∈ active request.constraints,
      ConstraintBlock.Suits assembler.portal facetClass entry)
    (failed : assembler.assemble request = .error (.configuration fault)) :
    assembler.Unchecked request facetClass filterTarget fault := by
  rcases bind_eq_error.mp failed with failed | ⟨query, built, failed⟩
  · exact unchecked_of_body valid reads suits failed
  rcases bind_eq_error.mp failed with failed | ⟨_, -, failed⟩
  · obtain ⟨inner, refused, same⟩ := mapError_eq_error.mp failed
    cases same
    obtain ⟨validates, invalid, rfl⟩ := complete_eq_error.mp refused
    refine .grammar validates (fun laysOut => ?_) (Classical.byContradiction fun checked => ?_)
      built invalid
    · simp [isQuery_of_laysOut laysOut built] at invalid
    · simp [isQuery_of_not_departs valid reads checked built] at invalid
  · cases failed

end Assembler

end FacetedQuery
