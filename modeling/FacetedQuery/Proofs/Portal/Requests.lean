import FacetedQuery.Proofs.Portal.Listings

/-!
# Requests to the manuscript portal

The portal is presentable, so it answers every request with a valid query or refuses it.  Its facets
have all the parts that constraints of their kinds need, and its targets and facets make variables,
so that whatever is refused is a fault of the request.
-/

namespace FacetedQuery

open Rdf (Iri)
open Template (AroundBlock Named OpensBlock Part Passage fillAll_fill fillAll_nil)

namespace FilterValue

def kind : FilterValue → FilterKind
  | .uris _ _ => .uri
  | .text _ => .text
  | .timespan _ _ => .timespan
  | .box _ => .spatial

end FilterValue

namespace ConstraintBlock

/-- A checked value is of a kind that its facet takes. -/
theorem accepts_kind {facet : Facet} {constraint : Constraint} {value : FilterValue}
    (checked : checkValue facet constraint = .ok value) : facet.accepts value.kind = true := by
  have same : value.kind = constraint.kind := by
    have accepted := accepts_of_checkValue checked
    unfold Accepts at accepted
    unfold Constraint.kind
    cases given : constraint.value with
    | uris items =>
        simp only [given] at accepted
        obtain ⟨iris, -, rfl⟩ := accepted
        rfl
    | text content =>
        simp only [given] at accepted
        rw [accepted]
        rfl
    | timespan range =>
        simp only [given] at accepted
        obtain ⟨min, max, -, -, rfl⟩ := accepted
        rfl
    | box corners =>
        simp only [given] at accepted
        rw [accepted.2]
        rfl
  unfold checkValue at checked
  split at checked
  · next accepts => rwa [same]
  · cases checked

end ConstraintBlock

namespace Facet

theorem mem_of_facet {spec : ResultClass} {facet : Facet} {id : String}
    (known : spec.facet id = .ok facet) : facet ∈ spec.facets := by
  unfold ResultClass.facet at known
  split at known
  · next found =>
    cases known
    exact List.mem_of_find?_eq_some found
  · cases known

/-- Whether a facet has what constraints of its kind need. -/
def servesKind (facet : Facet) : Bool :=
  match facet.kind with
  | .uri => facet.predicate.isSome
  | .text => facet.labelPath.isSome
  | .timespan => facet.predicate.isSome && facet.timespan.isSome
  | .spatial => facet.spatial.isSome

/-- Whether a facet has what orders by its id need. -/
def servesOrder (facet : Facet) : Bool :=
  if SortClauses.isTimespanKey facet.id then
    (facet.timespan.bind (·.sortAscending)).isSome &&
      (facet.timespan.bind (·.sortDescending)).isSome
  else facet.labelPath.isSome

/-- A facet with everything that constraints and orders need, hierarchies apart. -/
structure Complete (facet : Facet) : Prop where
  name : Named facet.id
  kind : facet.servesKind = true
  order : facet.servesOrder = true

instance (facet : Facet) : Decidable facet.Complete :=
  decidable_of_iff (Named facet.id ∧ facet.servesKind = true ∧ facet.servesOrder = true)
    ⟨fun ⟨name, kind, order⟩ => ⟨name, kind, order⟩,
      fun complete => ⟨complete.name, complete.kind, complete.order⟩⟩

end Facet

/-- A fault that names something of the request: what is not there, what is malformed, or a
hierarchy that a facet does not have. -/
inductive Fault.OfRequest : Fault → Prop where
  | unknownResultClass (id : String) : OfRequest (.configuration (.unknownResultClass id))
  | unknownListing (id : String) : OfRequest (.configuration (.unknownListing id))
  | unknownLookup (id : String) : OfRequest (.configuration (.unknownLookup id))
  | unknownFacet (facetClass facet : String) :
      OfRequest (.configuration (.unknownFacet facetClass facet))
  | unknownSortKey (resultClass key : String) :
      OfRequest (.configuration (.unknownSortKey resultClass key))
  | noHierarchy (facetClass facet : String) :
      OfRequest (.configuration (.missingFacetProperty facetClass facet "parent property"))
  | malformed (fault : ValidationFault) : OfRequest (.validation fault)

namespace Fault.OfRequest

variable {portal : Portal} {spec : ResultClass} {facet : Facet}

theorem ofResultClass {id : String} {fault : ConfigurationFault}
    (unknown : portal.resultClass id = .error fault) : OfRequest (.configuration fault) := by
  unfold Portal.resultClass at unknown
  split at unknown
  · cases unknown
  · cases unknown
    exact .unknownResultClass id

theorem ofListing {id : String} {fault : ConfigurationFault}
    (unknown : portal.listing id = .error fault) : OfRequest (.configuration fault) := by
  unfold Portal.listing at unknown
  split at unknown
  · cases unknown
  · cases unknown
    exact .unknownListing id

theorem ofLookup {id : String} {fault : ConfigurationFault}
    (unknown : portal.lookup id = .error fault) : OfRequest (.configuration fault) := by
  unfold Portal.lookup at unknown
  split at unknown
  · cases unknown
  · cases unknown
    exact .unknownLookup id

/-- A complete facet lacks nothing but a hierarchy for a value of a kind that it takes. -/
theorem ofLacks {facetClass : String} {value : FilterValue} {fault : ConfigurationFault}
    (complete : facet.Complete) (accepts : facet.accepts value.kind = true)
    (lacks : Filter.Lacks facetClass facet value fault) : OfRequest (.configuration fault) := by
  have serves := complete.kind
  simp only [Facet.accepts, Bool.or_eq_true, Bool.and_eq_true, beq_iff_eq] at accepts
  unfold Facet.servesKind at serves
  cases lacks with
  | predicate needs missing =>
      cases value with
      | text content => cases needs
      | box corners => cases needs
      | uris items withSubconcepts =>
          rcases accepts with same | ⟨other, -⟩
          · simp [← same, FilterValue.kind, missing] at serves
          · cases other
      | timespan min max =>
          rcases accepts with same | ⟨other, -⟩
          · simp [← same, FilterValue.kind, missing] at serves
          · cases other
  | parent => exact .noHierarchy _ _
  | labelPath missing =>
      rcases accepts with same | ⟨other, -⟩
      · simp [← same, FilterValue.kind, missing] at serves
      · cases other
  | timespan missing =>
      rcases accepts with same | ⟨other, -⟩
      · simp [← same, FilterValue.kind, missing] at serves
      · cases other
  | spatial missing =>
      rcases accepts with same | ⟨-, given⟩
      · simp [← same, FilterValue.kind, missing] at serves
      · rw [missing] at given
        cases given
  | illegalVariable member illegal =>
      obtain ⟨wellFormed, -⟩ := complete.name.suffixed (Filter.isVariableRest_of_suffix member)
      exact absurd illegal (Rdf.Variable.ofName?_ne_none wellFormed)

theorem ofRefused {facetClass filterTarget : String} {constraints : Option ConstraintSet}
    {fault : Fault}
    (complete : ∀ spec ∈ portal.resultClasses, ∀ facet ∈ spec.facets, facet.Complete)
    (legal : Rdf.Name.isVariable filterTarget.toList = true)
    (refused : ConstraintBlock.Refused portal facetClass filterTarget constraints fault) :
    OfRequest fault := by
  cases refused with
  | unknownClass _ unknown => exact ofResultClass unknown
  | illegalTarget _ illegal => exact absurd illegal (Rdf.Variable.ofName?_ne_none legal)
  | unsuited known _ unsuited =>
      have member := ConstraintBlock.Portal.mem_of_resultClass known
      cases unsuited with
      | unknownFacet unknown =>
          unfold ResultClass.facet at unknown
          split at unknown
          · cases unknown
          · cases unknown
            exact .unknownFacet _ _
      | invalidValue _ _ => exact .malformed _
      | lacks found checked lacks =>
          have inside := Facet.mem_of_facet found
          exact ofLacks (complete _ member _ inside) (ConstraintBlock.accepts_kind checked) lacks

theorem ofOrder {order : SortOrder} {fault : ConfigurationFault}
    (complete : ∀ facet ∈ spec.facets, facet.Complete)
    (failed : SortClauses.ofOrder spec order = .error fault) :
    OfRequest (.configuration fault) := by
  unfold SortClauses.ofOrder at failed
  split at failed
  · cases failed
  · next key _ =>
    split at failed
    · cases failed
      exact .unknownSortKey _ _
    · next facet known =>
      -- The key is the id of the facet, so the facet has the path that the order needs.
      obtain rfl : facet.id = key := by simpa using List.find?_some known
      have serves := (complete facet (List.mem_of_find?_eq_some known)).order
      rcases Outcome.bind_eq_error.mp failed with failed | ⟨_, -, failed⟩
      · unfold SortClauses.path at failed
        unfold Facet.servesOrder at serves
        split at failed
        · next timespan =>
          rw [if_pos timespan, Bool.and_eq_true, Option.isSome_iff_exists, Option.isSome_iff_exists]
            at serves
          obtain ⟨⟨ascending, hasAscending⟩, descending, hasDescending⟩ := serves
          cases direction : order.direction <;>
            simp [direction, hasAscending, hasDescending] at failed
        · next plain =>
          rw [if_neg plain, Option.isSome_iff_exists] at serves
          obtain ⟨path, given⟩ := serves
          simp [given] at failed
      · cases failed

end Fault.OfRequest

namespace Manuscripts

theorem opensBlock_relatedOver {path : String} (isPath : IsPath path) :
    OpensBlock portal.prologue (relatedOver path) := by
  have isLine : ("?related__id " ++ path ++ " ?id .").toList =
      Template.linkText "related__id" path "id" ['.'] := by
    simp [Template.linkText]
  have related : Part portal.prologue ["?related__id " ++ path ++ " ?id ."] ["related__id", "id"] :=
    .link (by decide) isPath (by decide) isLine
  have labels : Part portal.prologue [label "?related__id" "?related__prefLabel"]
      ["related__id", "related__prefLabel"] :=
    part_label (by decide) (by decide) (by decide) (by decide)
  refine ⟨_, rfl, by simp [Text.groupLines], ?_, fun {fills scope} place => ?_⟩
  · refine Part.onLines_groupLines (by decide) ?_
    simp only [List.forall_mem_cons, List.not_mem_nil, false_imp_iff, implies_true, and_true]
    exact ⟨related.onLines _ (by simp), by decide, labels.onLines _ (by simp)⟩
  · refine ⟨_, fun name member => ?_, .optional ((related.passage fills).appendPlain
      (place.appendPlain (labels.passage fills)))⟩
    exact List.mem_append_right _ (List.mem_append_left _ member)

theorem presentable_lookups : ∀ route ∈ portal.lookups, route.Presentable portal.prologue := by
  have single : ∀ {id properties : String}, IsProperty properties →
      (page id properties).Presentable portal.prologue := fun isProperty =>
    ⟨.inr isProperty.holdsBlock, .inl rfl⟩
  have plain : ∀ {id facetClass : String}, (window id facetClass "").Presentable portal.prologue :=
    ⟨.inr isProperty_placeWindow.holdsBlock, .inl rfl⟩
  have related : ∀ {id facetClass path : String}, IsPath path →
      (window id facetClass (relatedOver path)).Presentable portal.prologue := fun isPath =>
    ⟨.inr isProperty_placeWindow.holdsBlock, .inr (opensBlock_relatedOver isPath).holdsBlock⟩
  have members : ∀ route ∈ lookups, route.Presentable portal.prologue := by
    simp only [lookups, List.forall_mem_cons, List.not_mem_nil, false_imp_iff,
      implies_true, and_true]
    exact ⟨single isProperty_manuscriptPage, single isProperty_expressions,
      single isProperty_collections, single isProperty_works, single isProperty_events,
      single isProperty_actors, single isProperty_placePage, plain, related vocabulary.bornAt,
      related vocabulary.producedAt, related vocabulary.lastKnownAt, plain⟩
  exact members

theorem presentable_listings : ∀ route ∈ portal.listings, route.Presentable portal.prologue := by
  have single : ∀ {id target facetClass text : String} {shape : ResultShape}, Named target →
      Text.Closed target.toList → AroundBlock portal.prologue target [] text →
      (listing id target facetClass (.plain text) shape).Presentable portal.prologue :=
    fun named closed around =>
      ⟨named, closed, fun groupBy => by cases groupBy <;> exact .plain around⟩
  have grouped : ∀ {id target facetClass text other : String} {shape groupedShape : ResultShape},
      Named target → Text.Closed target.toList → AroundBlock portal.prologue target [] text →
      AroundBlock portal.prologue target [] other →
      ({ listing id target facetClass (.plain text) shape with
        grouped := some ⟨.plain other, groupedShape⟩ } : ListingRoute).Presentable
          portal.prologue :=
    fun named closed around aroundOther => ⟨named, closed, fun groupBy => by
      cases groupBy
      · exact .plain around
      · exact .plain aroundOther⟩
  have members : ∀ route ∈ listings, route.Presentable portal.prologue := by
    simp only [listings, List.forall_mem_cons, List.not_mem_nil, false_imp_iff, implies_true,
      and_true]
    refine ⟨single (by decide) (by decide) around_allPlaces,
      grouped (by decide) (by decide) around_productionCoordinates around_productionPlaces,
      single (by decide) (by decide) around_lastKnownLocations,
      single (by decide) (by decide) around_placesOfActors,
      single (by decide) (by decide) around_migrations,
      grouped (by decide) (by decide) around_placesOfEvents around_placesOfEvents,
      ⟨by decide, by decide, fun groupBy => ?_⟩,
      single (by decide) (by decide) around_networkLinks⟩
    cases groupBy <;> exact .timeBuckets values_periods around_eventsByPeriod
  exact members

theorem presentable_portal : portal.Presentable where
  prefixes := sound_prefixes
  classes := presentable_classes
  listings := presentable_listings
  lookups := presentable_lookups

theorem complete_facets : ∀ spec ∈ portal.resultClasses, ∀ facet ∈ spec.facets, facet.Complete := by
  decide +kernel

/-- What the portal refuses is a fault of the request. -/
theorem ofRequest_of_refusal {request : Request} {fault : Fault}
    (refusal : Refusal portal request fault) : fault.OfRequest := by
  have known : ∀ {id : String} {spec : ResultClass}, portal.resultClass id = .ok spec →
      ∀ facet ∈ spec.facets, facet.Complete := fun found =>
    complete_facets _ (ConstraintBlock.Portal.mem_of_resultClass found)
  cases refusal with
  | countClass unknown => exact .ofResultClass unknown
  | countConstraints refused => exact .ofRefused complete_facets (by decide) refused
  | pageClass unknown => exact .ofResultClass unknown
  | page _ => exact .malformed _
  | order found failed => exact .ofOrder (known found) failed
  | pageConstraints refused => exact .ofRefused complete_facets (by decide) refused
  | listing unknown => exact .ofListing unknown
  | listingConstraints found refused =>
      have member := (Portal.mem_of_listing found).1
      exact .ofRefused complete_facets (presentable_listings _ member).target.wellFormed refused
  | lookup unknown => exact .ofLookup unknown
  | lookupIri _ => exact .malformed _
  | lookupConstraints _ refused => exact .ofRefused complete_facets (by decide) refused

theorem networkNodes_eq : networkNodes = Text.join "\n" (["SELECT ?id ?prefLabel ?class"] ++
    (Text.groupLines "WHERE" (["VALUES ?id " ++ Text.braced "<ID_SET>"] ++ [ownLabel] ++
      ["BIND(\"manuscript\" AS ?class)"]) ++ [])) :=
  @query_eq ["SELECT ?id ?prefLabel ?class"] _ [] (by simp)

theorem plain_nodeColumns : Template.PlainLines ["SELECT ?id ?prefLabel ?class"]
    [.word "SELECT", .var "id", .var "prefLabel", .var "class"] :=
  .ofChars (.cons rfl .nil) (by decide +kernel)

theorem arranged_networkNodes (ids : List Iri) :
    Template.Arranged portal.prologue [(.idSet, (idSet ids).toList)] networkNodes := by
  have spelled := Clause.spelled_iris ids
  have names : (ids.map fun id => Sparql.Token.name (.iri id.text)) =
      (ids.map fun id => Sparql.IriName.iri id.text).map .name := by
    simp [Function.comp_def]
  rw [names] at spelled
  have values : Passage portal.prologue [(.idSet, (idSet ids).toList)]
      ["VALUES ?id " ++ Text.braced "<ID_SET>"] ["id"] [] := by
    have isLine : "VALUES ?id " ++ Text.braced "<ID_SET>" =
        "VALUES ?" ++ "id" ++ " " ++ Text.braced Placeholder.idSet.token := by decide
    refine .values Template.named_id (by decide) rfl spelled ?_ isLine
    intro name member
    obtain ⟨id, -, rfl⟩ := List.mem_map.mp member
    exact Sparql.Prologue.admits_iri portal.prologue_base id
  have line : Template.PlainLines ["BIND(\"manuscript\" AS ?class)"] (.word "BIND" ::
      .mark .openParen :: ([.string "manuscript"] ++ [.word "AS", .var "class",
        .mark .closeParen])) :=
    .ofChars (.cons rfl .nil) (by decide +kernel)
  have margin : Template.Margin portal.prologue [(.idSet, (idSet ids).toList)]
      ["SELECT ?id ?prefLabel ?class"] _ :=
    .plain plain_nodeColumns (Sparql.Prologue.admits_of_isFixed rfl)
  have content := (values.appendPlain (part_ownLabel.passage _)).append
    (passage_bind _ "class" line (fun _ => rfl) rfl (by decide)) (by decide)
  rw [networkNodes_eq]
  exact .intro margin content Template.page_closeBrace (Sparql.Prologue.admits_of_isFixed rfl)
    ⟨fun _ _ => rfl, fun _ => rfl, fun _ => rfl⟩

/-- Serves the portal and checks every query. -/
def assembler : Assembler :=
  ⟨portal, true⟩

theorem fitsIds_networkNodes (ids : List Iri) : portal.FitsIds networkNodes ids where
  prefixes := sound_prefixes
  starts := by
    rw [networkNodes_eq]
    exact head_join_ne_feed (plain_nodeColumns.plain _ List.mem_cons_self) _
  arranged := arranged_networkNodes ids

theorem assembleNodes_valid (ids : List Iri) :
    ∃ text, assembler.assembleNodes networkNodes ids = .ok text ∧ Sparql.isQuery text = true := by
  obtain ⟨body, finished, valid⟩ := (fitsIds_networkNodes ids).isQuery_finish
  refine ⟨portal.prefixDeclarations ++ body, Outcome.bind_eq_ok.mpr ⟨body, finished, ?_⟩, valid⟩
  exact Assembler.complete_eq_ok.mpr ⟨fun _ => valid, rfl⟩

/-- Every request is answered with a valid query or refused for a fault of its own, and the query
for the nodes of a network is valid. -/
theorem requests_settle (request : Request) (id : Iri) (ids : List Iri) :
    ((∃ query, assembler.assemble request = .ok query ∧ Sparql.isQuery query.text = true) ∨
      ∃ fault, assembler.assemble request = .error fault ∧ Refusal portal request fault ∧
        fault.OfRequest) ∧
    ∃ text, assembler.assembleNodes networkNodes (id :: ids) = .ok text ∧
      Sparql.isQuery text = true := by
  refine ⟨?_, assembleNodes_valid (id :: ids)⟩
  rcases @Assembler.assemble_presentable assembler presentable_portal request with
    settled | ⟨fault, failed, refusal⟩
  · exact .inl settled
  · exact .inr ⟨fault, failed, refusal, ofRequest_of_refusal refusal⟩

end Manuscripts

end FacetedQuery
