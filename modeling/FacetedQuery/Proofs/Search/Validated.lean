import FacetedQuery.Proofs.Assembly.Unchecked
import FacetedQuery.Proofs.Results.Faults
import FacetedQuery.Proofs.Search.Calls
import FacetedQuery.Proofs.Search.Network

/-!
# Runs on valid portals

What a run on a portal that passes its checks may still end with: a malformed part of the request, a
fault of the executor or of the rows, or a fault of the deployment whose cause is not checked.
-/

namespace FacetedQuery

open ConstraintBlock (active)
open Outcome (Blames bind_eq_error)
open Portal (sampleInstance)
open Rdf (Iri)
open Template (HoldsOnly holdsOnly_nil)

namespace Run

variable {α β ε : Type} {kind : Fault → Prop}

/-- Whatever fault a run ends with is of a kind. -/
def Blames (run : Run α) (kind : Fault → Prop) : Prop :=
  ∀ trace fault, (run.run trace).1 = .error fault → kind fault

theorem blames_pure (value : α) : Blames (pure value : Run α) kind :=
  fun _ _ => nofun

theorem blames_log (event : Event) : Blames (log event) kind :=
  fun _ _ => nofun

theorem blames_lift {wrap : ε → Fault} {outcome : Except ε α}
    (blames : Outcome.Blames (fun problem => kind (wrap problem)) outcome) :
    Blames (lift wrap outcome) kind := by
  intro trace fault failed
  cases outcome with
  | error problem =>
      cases failed
      exact blames problem rfl
  | ok value => cases failed

/-- What follows is only run on values that the first part may end with. -/
theorem Blames.bind {first : Run α} {next : α → Run β} (blames : Blames first kind)
    (further : ∀ trace value later, first.run trace = (.ok value, later) →
      Blames (next value) kind) :
    Blames (first >>= next) kind := by
  intro trace fault failed
  rw [bind_run] at failed
  cases ran : first.run trace with
  | mk outcome later =>
      rw [ran] at failed
      cases outcome with
      | error problem =>
          cases failed
          exact blames trace fault (by rw [ran])
      | ok value => exact further trace value later ran later fault failed

theorem Blames.lift_bind {wrap : ε → Fault} {outcome : Except ε α} {next : α → Run β}
    (blames : Outcome.Blames (fun problem => kind (wrap problem)) outcome)
    (further : ∀ value, outcome = .ok value → Blames (next value) kind) :
    Blames (lift wrap outcome >>= next) kind :=
  (blames_lift blames).bind fun _ value _ ran => further value (lift_eq_ok.mp ran).1

end Run

/-- The ids of nodes that a network is asked for: the ends of links that the executor finds. -/
def Search.FindsNodes (search : Search) (request : Request) (ids : List Iri) : Prop :=
  ∃ query number rows links, search.assembler.assemble request = .ok query ∧
    search.executor.answer number ⟨search.config.endpoint, query.text⟩ = .ok rows ∧
    readLinks rows = .ok links ∧ linkEndpoints links = .ok ids

/-- What a run may end with although the portal passes its checks. -/
inductive Search.LeavesOpen (search : Search) (request : Request)
    (facetClass filterTarget : String) :
    Fault → Prop where
  | validation (fault : ValidationFault) :
      LeavesOpen search request facetClass filterTarget (.validation fault)
  | execution (fault : ExecutionFault) :
      LeavesOpen search request facetClass filterTarget (.execution fault)
  | rows {fault : MappingFault} : fault.OfRows →
      LeavesOpen search request facetClass filterTarget (.mapping fault)
  | assembly {fault : ConfigurationFault} :
      search.assembler.Unchecked request facetClass filterTarget fault →
      LeavesOpen search request facetClass filterTarget (.configuration fault)
  /-- The query for the nodes of a network is none with the ids that were found, around which its
  template is not arranged.  The checks try it with a single id. -/
  | nodes {resultClass nodesQuery body : String} {constraints : Option ConstraintSet}
      {groupBy : Bool} {route : ListingRoute} {ids : List Iri} :
      request = .listing resultClass none constraints groupBy →
      search.portal.listing resultClass = .ok route →
      (route.variant groupBy).shape = .network nodesQuery → search.config.validates = true →
      search.FindsNodes request ids → ids ≠ [] → ids ≠ [sampleInstance] →
      ¬search.portal.FitsIds nodesQuery ids →
      ((Template.ofText "network nodes" nodesQuery).fill .idSet (idSet ids)).finish = .ok body →
      Sparql.isQuery (search.portal.prefixDeclarations ++ body) = false →
      LeavesOpen search request facetClass filterTarget
        (.configuration (.invalidQuery "network nodes" .grammar))
  /-- The listing is to show a count. -/
  | shape {resultClass : String} {constraints : Option ConstraintSet} {groupBy : Bool}
      {route : ListingRoute} : request = .listing resultClass none constraints groupBy →
      search.portal.listing resultClass = .ok route → (route.variant groupBy).shape = .count →
      LeavesOpen search request facetClass filterTarget (.mapping (.unsupportedShape "count"))

namespace Search

variable {search : Search} {request : Request} {facetClass filterTarget : String}

theorem blames_execute (query : String) :
    Run.Blames (search.execute query) (search.LeavesOpen request facetClass filterTarget) := by
  intro trace fault failed
  cases answered : search.executor.answer trace.calls.length ⟨search.config.endpoint, query⟩ with
  | ok rows =>
      rw [execute_eq_ok.mpr ⟨answered, rfl⟩] at failed
      cases failed
  | error problem =>
      rw [execute_of_error answered] at failed
      cases failed
      exact .execution problem

theorem blames_rows {outcome : Except MappingFault α}
    (blames : Blames MappingFault.OfRows outcome) :
    Blames (fun problem => search.LeavesOpen request facetClass filterTarget (.mapping problem))
      outcome :=
  fun problem failed => .rows (blames problem failed)

/-- The ids of nodes leave no placeholder in a template that was checked. -/
theorem fault_of_assembleNodes {nodesQuery : String} {ids : List Iri} {problem : ConfigurationFault}
    (nonempty : ids ≠ [])
    (only : HoldsOnly [.idSet] (Template.ofText "network nodes" nodesQuery).text)
    (failed : search.assembler.assembleNodes nodesQuery ids = .error problem) :
    problem = .invalidQuery "network nodes" .grammar ∧ search.config.validates = true ∧
      ∃ body, ((Template.ofText "network nodes" nodesQuery).fill .idSet (idSet ids)).finish =
          .ok body ∧ Sparql.isQuery (search.portal.prefixDeclarations ++ body) = false := by
  have free :=
    holdsOnly_nil.mp (only.filled (Clause.sealed_iris nonempty) (Clause.free_iris ids) [])
  rcases bind_eq_error.mp failed with unfinished | ⟨body, finished, refused⟩
  · cases unfinished.symm.trans (Template.finish_of_free free)
  · obtain ⟨validates, invalid, rfl⟩ := Assembler.complete_eq_error.mp refused
    exact ⟨rfl, validates, body, finished, invalid⟩

/-- The query for the nodes of a valid network only fails for ids around which it is not
arranged. -/
theorem blames_assembleNodes (valid : search.portal.validate = .ok ())
    {resultClass nodesQuery : String} {constraints : Option ConstraintSet} {groupBy : Bool}
    {route : ListingRoute} {ids : List Iri} (known : search.portal.listing resultClass = .ok route)
    (shape : (route.variant groupBy).shape = .network nodesQuery)
    (found : search.FindsNodes (.listing resultClass none constraints groupBy) ids)
    (nonempty : ids ≠ []) :
    Blames (fun problem => search.LeavesOpen (.listing resultClass none constraints groupBy)
      facetClass filterTarget (.configuration problem))
      (search.assembler.assembleNodes nodesQuery ids) := by
  intro problem failed
  have only := (Portal.holdsOnly_listing valid known groupBy).2 nodesQuery shape
  obtain ⟨rfl, validates, body, finished, invalid⟩ := fault_of_assembleNodes nonempty only failed
  refine .nodes rfl known shape validates found nonempty ?_ ?_ finished invalid
  · rintro rfl
    obtain ⟨text, made⟩ := Portal.assembles_nodes valid known shape
    obtain ⟨other, same, completed⟩ := Outcome.bind_eq_ok.mp made
    cases finished.symm.trans same
    simp [(Assembler.complete_eq_ok.mp completed).1 rfl] at invalid
  · intro fits
    obtain ⟨other, same, isQuery⟩ := fits.isQuery_finish
    cases finished.symm.trans same
    simp [isQuery] at invalid

theorem blames_network (valid : search.portal.validate = .ok ()) {query sent : AssembledQuery}
    {resultClass nodesQuery : String} {constraints : Option ConstraintSet} {groupBy : Bool}
    {route : ListingRoute} (known : search.portal.listing resultClass = .ok route)
    (shape : (route.variant groupBy).shape = .network nodesQuery) {number : Nat}
    {rows : List Solution}
    (assembled : search.assembler.assemble (.listing resultClass none constraints groupBy) =
      .ok query)
    (answered : search.executor.answer number ⟨search.config.endpoint, query.text⟩ = .ok rows) :
    Run.Blames (search.network sent nodesQuery rows)
      (search.LeavesOpen (.listing resultClass none constraints groupBy) facetClass
        filterTarget) := by
  unfold Search.network
  refine .lift_bind (blames_rows (blames_readLinks rows)) fun links linked => ?_
  refine .lift_bind (blames_rows (blames_linkEndpoints links)) fun ids ended => ?_
  split
  · exact Run.blames_pure _
  · next isNonempty =>
    have nonempty : ids ≠ [] := by simpa using isNonempty
    have found : search.FindsNodes (.listing resultClass none constraints groupBy) ids :=
      ⟨query, number, rows, links, assembled, answered, linked, ended⟩
    refine .lift_bind (blames_assembleNodes valid known shape found nonempty) fun text _ => ?_
    refine (blames_execute text).bind fun _ nodeRows _ _ => ?_
    exact .lift_bind (blames_rows (blames_readNodes nodeRows)) fun _ _ => Run.blames_pure _

/-- What is made of the rows of a query on a valid portal. -/
theorem blames_respond (valid : search.portal.validate = .ok ()) {query : AssembledQuery}
    (reads : search.portal.Reads request facetClass filterTarget)
    (assembled : search.assembler.assemble request = .ok query) {number : Nat}
    {rows : List Solution}
    (answered : search.executor.answer number ⟨search.config.endpoint, query.text⟩ = .ok rows) :
    Run.Blames (search.respond query rows request)
      (search.LeavesOpen request facetClass filterTarget) := by
  cases reads with
  | count known =>
      exact .lift_bind (blames_rows (blames_readCount rows)) fun _ _ =>
        (Run.blames_log _).bind fun _ _ _ _ => Run.blames_pure _
  | resultSet known =>
      exact .lift_bind (blames_rows (blames_objectsWithout _ rows)) fun _ _ =>
        (Run.blames_log _).bind fun _ _ _ _ => Run.blames_pure _
  | lookup known =>
      exact .lift_bind (blames_rows (blames_objectsWithout _ rows)) fun _ _ =>
        (Run.blames_log _).bind fun _ _ _ _ => Run.blames_pure _
  | @listing resultClass constraints groupBy route known =>
      obtain ⟨found, _, _, _, again, -, -, -, rfl⟩ := Assembler.listing_of_assemble assembled
      cases known.symm.trans again
      refine Run.Blames.bind ?_ fun _ _ _ _ => (Run.blames_log _).bind fun _ _ _ _ =>
        Run.blames_pure _
      -- Networks are gathered from two queries; any other shape is read off the rows at once.
      unfold gather
      cases shape : (route.variant groupBy).shape with
      | network nodesQuery => exact blames_network valid known shape assembled answered
      | _ =>
          refine .lift_bind (fun problem failed => ?_) fun _ _ => Run.blames_pure _
          rcases readListing_eq_error failed with ofRows | ⟨isCount, rfl⟩ | ⟨_, isNetwork⟩
          · exact .rows ofRows
          · exact .shape rfl known (shape.trans isCount)
          · cases isNetwork

end Search

namespace Portal

/-- A class with three facets, of which the second one has a path with a comment and the third one
has no path. -/
def looseClass : ResultClass where
  id := "c"
  rdfClasses := ["<http://a/C>"]
  properties := ""
  defaultSortKey := none
  facets := [Facet.ofText "name" "<http://a/n>", Facet.ofText "note" "<http://a/n>#<NOTE>\n",
    Facet.new "bare" .text]

/-- A template with a place for a block. -/
def looseQuery : ListingQuery :=
  .plain "SELECT * WHERE \x7b\n<FILTER>\n\x7d"

/-- A template of nodes for one id. -/
def looseNodes : String :=
  "SELECT * WHERE \x7b BIND(<ID_SET> AS ?id) \x7d"

/-- A portal that passes its checks although its routes do not fit all constraints. -/
def loose : Portal where
  prefixes := []
  resultClasses := [looseClass]
  listings := [
    ⟨"target", some "c", "not a variable", ⟨looseQuery, .objects⟩, none⟩,
    ⟨"place", some "c", "id", ⟨.plain "SELECT * WHERE \x7b \x7d\n<FILTER>", .objects⟩, none⟩,
    ⟨"count", some "c", "id", ⟨looseQuery, .count⟩, none⟩,
    ⟨"links", some "c", "id", ⟨looseQuery, .network looseNodes⟩, none⟩]
  lookups := [⟨"entity", none, "", ""⟩]

/-- The tokens of a query for everything. -/
def everything : List Sparql.Token :=
  [.word "SELECT", .mark .star, .word "WHERE", .mark .openBrace, .mark .closeBrace]

/-- A listing of the portal passes its checks if it asks for everything once its place is filled. -/
theorem passes_loose {route : ListingRoute} {text body : String}
    (known : loose.listing route.resultClass = .ok route) (single : route.grouped = none)
    (routed : route.facetClass = some "c") (isTemplate : (route.variant false).query = .plain text)
    (filled : ((Template.ofText "" text).fill .filter ConstraintBlock.empty.render).text =
      body.toList)
    (spelled : Template.Free body.toList ∧ Text.strip body.toList = body.toList ∧
      Sparql.Token.tokens? body.toList = some everything)
    (nodes : ∀ nodesQuery, (route.variant false).shape = .network nodesQuery →
      ∃ text, (Assembler.mk loose true).assembleNodes nodesQuery [sampleInstance] = .ok text) :
    ∀ check ∈ listingChecks route, (check.report loose).outcome = .ok () := by
  obtain ⟨free, stripped, read⟩ := spelled
  have finished : ((Template.ofText route.resultClass text).fill .filter
      ConstraintBlock.empty.render).finish = .ok body :=
    Template.finish_of_stripped filled free stripped
  have valid : Sparql.isQuery (loose.prefixDeclarations ++ body) = true :=
    isQuery_unprefixed rfl read (by decide +kernel)
  have found : ∃ spec, loose.resultClass "c" = .ok spec := ⟨looseClass, rfl⟩
  refine passes_listingChecks known single (by rw [routed]; rintro _ ⟨⟩; exact found) ?_
  refine passes_listing_of_finish known ?_ finished valid nodes
  rw [isTemplate]
  rfl

theorem passes_looseQuery {route : ListingRoute}
    (known : loose.listing route.resultClass = .ok route)
    (single : route.grouped = none) (routed : route.facetClass = some "c")
    (isQuery : (route.variant false).query = looseQuery)
    (nodes : ∀ nodesQuery, (route.variant false).shape = .network nodesQuery →
      ∃ text, (Assembler.mk loose true).assembleNodes nodesQuery [sampleInstance] = .ok text) :
    ∀ check ∈ listingChecks route, (check.report loose).outcome = .ok () := by
  refine @passes_loose route _ "SELECT * WHERE \x7b\n# no filters\n\x7d" known single
    routed isQuery ?_ ?_ nodes
  · unfold Template.fill Template.ofText
    repeat rw [String.toList_ofList]
    decide +kernel
  · unfold Template.Free
    rw [String.toList_ofList]
    decide +kernel

/-- The query for the nodes of the entity that stands for all. -/
def looseNodesBody : String :=
  "SELECT * WHERE \x7b BIND(<http://example.org/instance> AS ?id) \x7d"

theorem assembleNodes_loose :
    (Assembler.mk loose true).assembleNodes looseNodes [sampleInstance] = .ok looseNodesBody := by
  have filled : ((Template.ofText "network nodes" looseNodes).fill .idSet
      (Text.join " " ([sampleInstance].map Rdf.Iri.render))).text = looseNodesBody.toList := by
    unfold Template.fill Template.ofText looseNodes looseNodesBody
    repeat rw [String.toList_ofList]
    decide +kernel
  have spelled : Template.Free looseNodesBody.toList ∧
      Text.strip looseNodesBody.toList = looseNodesBody.toList ∧
      Sparql.Token.tokens? looseNodesBody.toList = some [.word "SELECT", .mark .star, .word "WHERE",
        .mark .openBrace, .word "BIND", .mark .openParen,
        .name (.iri "http://example.org/instance"), .word "AS", .var "id", .mark .closeParen,
        .mark .closeBrace] := by
    unfold Template.Free looseNodesBody
    rw [String.toList_ofList]
    decide +kernel
  obtain ⟨free, stripped, read⟩ := spelled
  have valid : Sparql.isQuery (loose.prefixDeclarations ++ looseNodesBody) = true :=
    isQuery_unprefixed rfl read (by decide +kernel)
  have same : loose.prefixDeclarations ++ looseNodesBody = looseNodesBody := by
    rw [show loose.prefixDeclarations = "" from rfl, String.empty_append]
  exact Outcome.bind_eq_ok.mpr ⟨_, Template.finish_of_stripped filled free stripped,
    Assembler.complete_eq_ok.mpr ⟨fun _ => valid, same⟩⟩

theorem validate_loose : loose.validate = .ok () := by
  have sound : ∀ declaration ∈ loose.prefixes, declaration.Sound := nofun
  refine validate_of_class rfl rfl sound
    (framed_bare ⟨"http://a/C", by decide⟩ rfl rfl) ?_ ?_
  · have name : ∀ check ∈ facetChecks looseClass (Facet.ofText "name" "<http://a/n>"),
        (check.report loose).outcome = .ok () := by
      refine passes_facet sound rfl rfl ?_ looseClass
      rintro path (_ | ⟨_, ⟨⟩⟩)
      exact ⟨⟨"http://a/n", by decide⟩, rfl⟩
    have bare : ∀ check ∈ facetChecks looseClass (Facet.new "bare" .text),
        (check.report loose).outcome = .ok () :=
        passes_facet sound rfl rfl (by rintro path ⟨⟩) looseClass
    exact List.forall_mem_cons.mpr ⟨name, List.forall_mem_cons.mpr
      ⟨passes_of_all (by decide +kernel), List.forall_mem_singleton.mpr bare⟩⟩
  · refine List.forall_mem_append.mpr ⟨List.forall_mem_flatMap.mpr ?_, ?_⟩
    · simp only [loose, List.forall_mem_cons]
      refine ⟨passes_looseQuery rfl rfl rfl rfl nofun, ?_, passes_looseQuery rfl rfl rfl rfl nofun,
        passes_looseQuery rfl rfl rfl rfl ?_, List.forall_mem_nil _⟩
      · refine @passes_loose _ _ "SELECT * WHERE \x7b \x7d\n# no filters" rfl rfl
          rfl rfl ?_ ?_ nofun
        · unfold Template.fill Template.ofText
          repeat rw [String.toList_ofList]
          decide +kernel
        · unfold Template.Free
          rw [String.toList_ofList]
          decide +kernel
      · rintro _ ⟨⟩
        exact ⟨_, assembleNodes_loose⟩
    · refine List.forall_mem_singleton.mpr ?_
      exact @passes_lookup loose sound ⟨"entity", none, "", ""⟩ rfl ⟨.inl rfl, .inl rfl⟩

end Portal

namespace Search

open Portal (loose looseClass looseQuery validate_loose)

/-- A search on the portal whose executor finds the same link for every query. -/
def looseSearch : Search :=
  ⟨loose, .default, ⟨fun _ _ => .ok [rowOf [("source", "o:a"), ("target", "o:b")]]⟩⟩

/-- A text that is looked for with one facet. -/
def lookedFor (facet : String) : Option ConstraintSet :=
  some (.ofList [(facet, ⟨.text "x", false⟩)])

theorem suits_lookedFor {facet : String} (member : facet ∈ ["name", "note", "bare"]) :
    ∀ entry ∈ active (lookedFor facet), ConstraintBlock.Suits loose "c" entry := by
  intro entry inside spec known
  obtain rfl : looseClass = spec := Except.ok.inj known
  simp only [List.mem_cons, List.not_mem_nil, or_false] at member
  rcases member with rfl | rfl | rfl <;>
    · obtain rfl := List.mem_singleton.mp inside
      exact ⟨_, _, rfl, rfl⟩

theorem reads_loose {resultClass : String} {constraints : Option ConstraintSet} {groupBy : Bool}
    {route : ListingRoute} (known : loose.listing resultClass = .ok route)
    (routed : route.facetClass = some "c") :
    loose.Reads (.listing resultClass none constraints groupBy) "c" route.filterTarget := by
  have reads := @Portal.Reads.listing loose resultClass constraints groupBy route known
  rwa [routed] at reads

/-- A request that suits its route and ends with a fault on an empty trace. -/
def EndsWith (search : Search) (request : Request) (fault : Fault) : Prop :=
  ∃ facetClass filterTarget, search.portal.Reads request facetClass filterTarget ∧
    (∀ entry ∈ active request.constraints,
      ConstraintBlock.Suits search.portal facetClass entry) ∧
    ((search.serve request).run .empty).1 = .error fault

/-- Whether an outcome is a given fault. -/
def isFault (outcome : Except Fault Json.Value) (fault : Fault) : Bool :=
  match outcome with
  | .ok _ => false
  | .error found => found == fault

theorem eq_error_of_isFault {outcome : Except Fault Json.Value} {fault : Fault}
    (same : isFault outcome fault = true) : outcome = .error fault := by
  cases outcome with
  | ok value => cases same
  | error found => rw [beq_iff_eq.mp same]

end Search

end FacetedQuery
