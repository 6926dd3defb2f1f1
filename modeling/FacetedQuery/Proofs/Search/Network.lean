import FacetedQuery.Proofs.Assembly.Listings
import FacetedQuery.Proofs.Results.Network
import FacetedQuery.Proofs.Search.Steps
import FacetedQuery.Proofs.Template.Occurrences

/-!
# Networks are closed graphs

The query for the nodes of a network asks for each end of a link once.  If it is answered with what
it asks for, the nodes are the ends of the links: no link dangles, and no node is left alone.
-/

namespace FacetedQuery

open Rdf (Iri)

theorem visible_idSet {ids : List Iri} (nonempty : ids ≠ []) :
    Text.visible (idSet ids).toList = true := by
  obtain ⟨id, rest, rfl⟩ := List.exists_cons_of_ne_nil nonempty
  have starts : Text.visible id.render.toList = true := by
    simpa [Iri.render] using Text.visible_cons (show Text.isBlank '<' = false from rfl) _
  cases rest with
  | nil => exact starts
  | cons next rest =>
      have split : (idSet (id :: next :: rest)).toList =
          id.render.toList ++ ' ' :: (idSet (next :: rest)).toList := by
        simp [idSet, Text.join]
      rw [split]
      exact Text.visible_append starts _

theorem closed_idSet (ids : List Iri) : Text.Closed (idSet ids).toList := by
  induction ids with
  | nil => exact .nil
  | cons id ids induction =>
      cases ids with
      | nil =>
          have closed := Clause.closed_of_last ('<' :: id.text.toList)
            (show Text.isBlank '>' = false from rfl)
          simpa [idSet, Text.join, Iri.render] using closed
      | cons next ids =>
          have split : (idSet (id :: next :: ids)).toList =
              (id.render.toList ++ [' ']) ++ (idSet (next :: ids)).toList := by
            simp [idSet, Text.join]
          rw [split]
          exact induction.behind (Text.ne_nil_of_visible (visible_idSet (by simp))) _

/-- The ids take exactly the places that the template has for them. -/
theorem Assembler.nodes_occurrences {assembler : Assembler}
    {nodesQuery text : String} {ids : List Iri}
    (assembled : assembler.assembleNodes nodesQuery ids = .ok text) (nonempty : ids ≠ []) :
    ∃ pieces, nodesQuery.toList.dropWhile (· == '\n') =
        Text.joinChars Placeholder.idSet.token.toList pieces ∧
      (∀ piece ∈ pieces, ¬Placeholder.idSet.token.toList <:+: piece) ∧
      text.toList = assembler.portal.prefixDeclarations.toList ++
        Text.joinChars (idSet ids).toList (Template.stripAround pieces) := by
  obtain ⟨body, finished, rfl⟩ := nodes_of_assemble assembled
  obtain ⟨-, rfl⟩ := Template.finish_eq_ok.mp finished
  obtain ⟨pieces, -, isTemplate, apart, filled⟩ :=
    Template.exists_occurrences (Template.token_ne_nil .idSet)
      (nodesQuery.toList.dropWhile (· == '\n'))
  refine ⟨pieces, isTemplate, apart, ?_⟩
  have onLine : '\n' ∉ (idSet ids).toList := Clause.feed_not_mem_iris ids
  have stripped :=
    Template.strip_joinChars onLine (visible_idSet nonempty) (closed_idSet ids) pieces
  rw [String.toList_append, String.toList_ofList, ← stripped, ← filled _ onLine]
  rfl

namespace Search

variable {search : Search} {trace later : Trace} {resultClass : String} {requested : Option String}
  {constraints : Option ConstraintSet} {groupBy : Bool} {response : ListingResponse}
  {graph : NetworkGraph}

/-- What a run has done that answers a network with at least one link. -/
structure Networked (search : Search) (trace : Trace) (request : Request) (graph : NetworkGraph)
    (query : AssembledQuery) (nodesQuery text : String) (rows nodeRows : List Solution)
    (ends : List Iri) : Prop where
  assembled : search.assembler.assemble request = .ok query
  network : query.shape = .network nodesQuery
  answered : search.executor.answer trace.calls.length ⟨search.config.endpoint, query.text⟩ =
    .ok rows
  links : readLinks rows = .ok graph.links
  areIris : (linkEnds graph.links).mapM Iri.ofText = .ok ends
  nodesAssembled : search.assembler.assembleNodes nodesQuery ends.eraseDups = .ok text
  nodesAnswered : search.executor.answer (trace.calls.length + 1) ⟨search.config.endpoint, text⟩ =
    .ok nodeRows
  nodes : readNodes nodeRows = .ok graph.nodes

/-- A network is not read from the rows of one query. -/
theorem readListing_ne_network (shape : ResultShape) (rows : List Solution) (graph : NetworkGraph) :
    readListing shape rows ≠ .ok (.network graph) := by
  cases shape with
  | count => nofun
  | network nodesQuery => nofun
  | objects =>
      unfold readListing
      cases readObjects rows <;> nofun
  | places =>
      unfold readListing
      cases readPlaces rows <;> nofun
  | coordinates =>
      unfold readListing
      cases readCoordinates rows <;> nofun

/-- A network with a link is gathered from the rows of two queries. -/
theorem exists_of_network {query : AssembledQuery} {nodesQuery : String} {rows : List Solution}
    {gathered : ListingData × String}
    (ran : (search.network query nodesQuery rows).run trace = (.ok gathered, later))
    (isNetwork : gathered.1 = .network graph) (nonempty : graph.links ≠ []) :
    ∃ text nodeRows ends, readLinks rows = .ok graph.links ∧
      (linkEnds graph.links).mapM Iri.ofText = .ok ends ∧
      search.assembler.assembleNodes nodesQuery ends.eraseDups = .ok text ∧
      search.executor.answer trace.calls.length ⟨search.config.endpoint, text⟩ = .ok nodeRows ∧
      readNodes nodeRows = .ok graph.nodes := by
  obtain ⟨links, _, linked, further⟩ := Run.bind_eq_ok.mp ran
  obtain ⟨isLinks, rfl⟩ := Run.lift_eq_ok.mp linked
  obtain ⟨endpoints, _, ended, further⟩ := Run.bind_eq_ok.mp further
  obtain ⟨found, rfl⟩ := Run.lift_eq_ok.mp ended
  obtain ⟨ends, areIris, rfl⟩ := linkEndpoints_eq_ok.mp found
  split at further
  · obtain ⟨rfl, -⟩ := Run.pure_eq_ok.mp further
    cases isNetwork
    exact absurd rfl nonempty
  · obtain ⟨text, _, built, further⟩ := Run.bind_eq_ok.mp further
    obtain ⟨assembled, rfl⟩ := Run.lift_eq_ok.mp built
    obtain ⟨nodeRows, _, executed, further⟩ := Run.bind_eq_ok.mp further
    obtain ⟨answered, -⟩ := execute_eq_ok.mp executed
    obtain ⟨nodes, _, read, further⟩ := Run.bind_eq_ok.mp further
    obtain ⟨isNodes, rfl⟩ := Run.lift_eq_ok.mp read
    obtain ⟨rfl, -⟩ := Run.pure_eq_ok.mp further
    cases isNetwork
    exact ⟨text, nodeRows, ends, isLinks, areIris, assembled, answered, isNodes⟩

theorem networked_of_listing
    (served : (search.listing resultClass requested constraints groupBy).run trace =
      (.ok response, later))
    (isNetwork : response.data = .network graph) (nonempty : graph.links ≠ []) :
    ∃ query nodesQuery text rows nodeRows ends,
      Networked search trace (.listing resultClass requested constraints groupBy) graph query
        nodesQuery text rows nodeRows ends := by
  unfold listing at served
  obtain ⟨query, _, compiled, further⟩ := Run.bind_eq_ok.mp served
  obtain ⟨assembled, rfl⟩ := compile_eq_ok.mp compiled
  obtain ⟨rows, _, executed, further⟩ := Run.bind_eq_ok.mp further
  obtain ⟨answered, rfl⟩ := execute_eq_ok.mp executed
  cases shape : query.shape with
  | network nodesQuery =>
      rw [shape] at further
      obtain ⟨gathered, _, gather, further⟩ := Run.bind_eq_ok.mp further
      obtain ⟨_, _, -, made⟩ := Run.bind_eq_ok.mp further
      obtain ⟨rfl, -⟩ := Run.pure_eq_ok.mp made
      obtain ⟨text, nodeRows, ends, isLinks, areIris, nodesAssembled, nodesAnswered, isNodes⟩ :=
        exists_of_network gather isNetwork nonempty
      refine ⟨query, nodesQuery, text, rows, nodeRows, ends, assembled, shape, answered, isLinks,
        areIris, nodesAssembled, ?_, isNodes⟩
      simpa [called, Run.logged] using nodesAnswered
  | _ =>
      rw [shape] at further
      obtain ⟨data, _, read, further⟩ := Run.bind_eq_ok.mp further
      obtain ⟨isRead, rfl⟩ := Run.lift_eq_ok.mp read
      obtain ⟨gathered, _, gather, further⟩ := Run.bind_eq_ok.mp further
      obtain ⟨rfl, rfl⟩ := Run.pure_eq_ok.mp gather
      obtain ⟨_, _, -, made⟩ := Run.bind_eq_ok.mp further
      obtain ⟨rfl, -⟩ := Run.pure_eq_ok.mp made
      cases isNetwork
      exact absurd isRead (readListing_ne_network _ rows graph)

/-- The links of a network are the rows of the first query one for one.  The second query asks for
each of their ends once, in the order in which they appear first; if it is answered with what it
asks for, each end is a node and each node is an end. -/
theorem network_closed
    (served : (search.listing resultClass requested constraints groupBy).run trace =
      (.ok response, later))
    (isNetwork : response.data = .network graph) (nonempty : graph.links ≠ []) :
    ∃ query nodesQuery text rows nodeRows ids pieces,
      search.assembler.assemble (.listing resultClass requested constraints groupBy) = .ok query ∧
      query.shape = .network nodesQuery ∧
      search.executor.answer trace.calls.length ⟨search.config.endpoint, query.text⟩ = .ok rows ∧
      List.Forall₂ Solution.IsLink rows graph.links ∧
      ids.map Iri.text = (linkEnds graph.links).eraseDups ∧ (ids.map Iri.text).Nodup ∧
      search.assembler.assembleNodes nodesQuery ids = .ok text ∧
      (nodesQuery.toList.dropWhile (· == '\n') =
          Text.joinChars Placeholder.idSet.token.toList pieces ∧
        (∀ piece ∈ pieces, ¬Placeholder.idSet.token.toList <:+: piece) ∧
        text.toList = search.portal.prefixDeclarations.toList ++
          Text.joinChars (idSet ids).toList (Template.stripAround pieces)) ∧
      search.executor.answer (trace.calls.length + 1) ⟨search.config.endpoint, text⟩ =
        .ok nodeRows ∧
      (graph.nodes.map NetworkNode.id).Nodup ∧
      ((∀ id, (∃ row ∈ nodeRows, row.text? "id" = some id) ↔ id ∈ ids.map Iri.text) →
        ∀ id, id ∈ graph.nodes.map NetworkNode.id ↔
          ∃ link ∈ graph.links, link.source = id ∨ link.target = id) := by
  obtain ⟨query, nodesQuery, text, rows, nodeRows, ends, networked⟩ :=
    networked_of_listing served isNetwork nonempty
  have texts : ends.eraseDups.map Iri.text = (linkEnds graph.links).eraseDups := by
    rw [map_eraseDups Iri.text_injective, map_text_of_mapM networked.areIris]
  have someEnd : ends.eraseDups ≠ [] := by
    intro noEnd
    rw [noEnd, List.map_nil] at texts
    obtain ⟨link, links, isLinks⟩ := List.exists_cons_of_ne_nil nonempty
    have first : link.source ∈ (linkEnds graph.links).eraseDups :=
      List.mem_eraseDups.mpr (mem_linkEnds.mpr ⟨link, by simp [isLinks], .inl rfl⟩)
    rw [← texts] at first
    cases first
  obtain ⟨keys, isKeys, nodes⟩ := ids_of_readNodes networked.nodes
  obtain ⟨pieces, occurrences⟩ := Assembler.nodes_occurrences networked.nodesAssembled someEnd
  refine ⟨query, nodesQuery, text, rows, nodeRows, ends.eraseDups, pieces, networked.assembled,
    networked.network, networked.answered, forall₂_of_readLinks networked.links, texts,
    texts ▸ nodup_eraseDups _, networked.nodesAssembled, occurrences, networked.nodesAnswered, ?_,
    fun complete id => ?_⟩
  · rw [nodes]
    exact nodup_eraseDups keys
  · have inRows : (∃ row ∈ nodeRows, row.text? "id" = some id) ↔ id ∈ keys := by
      rw [← List.mem_map, isKeys]
      simp
    rw [nodes, List.mem_eraseDups, ← inRows, complete id, texts, List.mem_eraseDups, mem_linkEnds]

/-- A row of literals. -/
def rowOf (columns : List (String × String)) : Solution :=
  ⟨columns.map fun column => (column.1, some (.literal (.plain column.2)))⟩

/-- A network of three owners in a row, whose nodes are answered in another order and one of them
twice. -/
def owners : Search where
  portal :=
    { prefixes := []
      resultClasses := []
      listings := [{
        resultClass := "owners"
        facetClass := none
        filterTarget := "source"
        plain := ⟨.plain "SELECT * WHERE \x7b <FILTER>\n?source <p:p> ?target \x7d",
          .network "SELECT * WHERE \x7b VALUES ?id \x7b <ID_SET> \x7d \x7d"⟩
        grouped := none }]
      lookups := [] }
  config := { SearchConfig.default with validates := false }
  executor := ⟨fun number _ => .ok <|
    if number = 0 then
      [rowOf [("source", "o:a"), ("target", "o:b")], rowOf [("source", "o:b"), ("target", "o:c")]]
    else [rowOf [("id", "o:c")], rowOf [("id", "o:a")], rowOf [("id", "o:c")],
      rowOf [("id", "o:b")]]⟩

theorem network_closed_owners :
    ∃ response later graph,
      (owners.listing "owners" none none false).run .empty = (.ok response, later) ∧
      response.data = .network graph ∧ graph.links ≠ [] ∧
      ∀ id, id ∈ graph.nodes.map NetworkNode.id ↔
        ∃ link ∈ graph.links, link.source = id ∨ link.target = id := by
  let graph : NetworkGraph := ⟨[⟨"o:c", none, none⟩, ⟨"o:a", none, none⟩, ⟨"o:b", none, none⟩],
    [⟨"o:a", "o:b", none⟩, ⟨"o:b", "o:c", none⟩]⟩
  obtain ⟨query, later, served⟩ : ∃ query later,
    (owners.listing "owners" none none false).run .empty =
      (.ok ⟨"owners", .network graph, query⟩, later) := ⟨_, _, rfl⟩
  obtain ⟨_, _, text, rows, nodeRows, ids, pieces, -, -, -, -, texts, -, -, -,
    answered, -, closed⟩ :=
    network_closed served rfl (by simp [graph])
  refine ⟨_, later, graph, served, rfl, by simp [graph], closed fun id => ?_⟩
  have asked : ids.map Iri.text = ["o:a", "o:b", "o:c"] := texts
  have column : ∀ value, (rowOf [("id", value)]).text? "id" = some value := fun _ => rfl
  cases answered
  rw [asked]
  simp [column, eq_comm]
  tauto

end Search

end FacetedQuery
