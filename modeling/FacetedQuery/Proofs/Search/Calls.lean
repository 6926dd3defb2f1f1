import FacetedQuery.Json.Fields
import FacetedQuery.Proofs.Portal.Links
import FacetedQuery.Proofs.Results.Network
import FacetedQuery.Proofs.Search.Steps

/-!
# What runs send and report

A run sends the query of its request and, for the nodes of a network, a second one; nothing is sent
for a request that is refused.  Behind its calls a run only makes the response, which tells the
texts that were sent.
-/

namespace FacetedQuery

open Rdf (Iri)

namespace Run

variable {α β ε : Type} {property : α → Prop}

/-- A run that sends nothing, and whatever it ends with has a property. -/
def Still (run : Run α) (property : α → Prop) : Prop :=
  ∀ trace, (run.run trace).2.calls = trace.calls ∧
    ∀ value, (run.run trace).1 = .ok value → property value

theorem still_pure {value : α} (holds : property value) : Still (pure value) property := by
  refine fun trace => ⟨rfl, fun result same => ?_⟩
  cases same
  exact holds

theorem still_lift (wrap : ε → Fault) (outcome : Except ε α) :
    Still (lift wrap outcome) (outcome = .ok ·) := by
  intro trace
  cases outcome with
  | error problem => exact ⟨rfl, nofun⟩
  | ok value =>
      refine ⟨rfl, fun result same => ?_⟩
      cases same
      rfl

theorem still_log (event : Event) : Still (log event) fun _ => True :=
  fun _ => ⟨rfl, fun _ _ => trivial⟩

theorem Still.bind {first : Run α} {next : α → Run β} {further : β → Prop}
    (still : Still first property) (rest : ∀ value, property value → Still (next value) further) :
    Still (first >>= next) further := by
  intro trace
  obtain ⟨calls, yields⟩ := still trace
  rw [bind_run]
  cases ran : first.run trace with
  | mk outcome middle =>
      rw [ran] at calls yields
      cases outcome with
      | error fault => exact ⟨calls, nofun⟩
      | ok value =>
          obtain ⟨callsRest, yieldsRest⟩ := rest value (yields value rfl) middle
          exact ⟨callsRest.trans calls, yieldsRest⟩

theorem lift_bind (wrap : ε → Fault) {outcome : Except ε α} {value : α} (next : α → Run β)
    (made : outcome = .ok value) : lift wrap outcome >>= next = next value := by
  subst made
  exact pure_bind value next

theorem still_lift_bind {wrap : ε → Fault} {outcome : Except ε α} (next : α → Run β)
    {further : β → Prop} (refused : ∀ value, outcome ≠ .ok value) :
    Still (lift wrap outcome >>= next) further :=
  (still_lift wrap outcome).bind fun value same => absurd same (refused value)

end Run

namespace Search

open Run (Still logged still_lift still_lift_bind still_log still_pure)

variable {search : Search} {query : AssembledQuery} {rows : List Solution}

/-- The query that follows on the rows of another one: the rows of a network are at least one link,
all ends are IRIs, and the query for the nodes with these ids can be assembled. -/
def FollowedBy (search : Search) (query : AssembledQuery) (rows : List Solution) (text : String) :
    Prop :=
  ∃ nodesQuery links ends, query.shape = .network nodesQuery ∧ readLinks rows = .ok links ∧
    links ≠ [] ∧ (linkEnds links).mapM Iri.ofText = .ok ends ∧
    search.assembler.assembleNodes nodesQuery ends.eraseDups = .ok text

theorem FollowedBy.unique {text other : String} (followed : search.FollowedBy query rows text)
    (again : search.FollowedBy query rows other) : text = other := by
  obtain ⟨nodesQuery, links, ends, network, read, -, areIris, assembled⟩ := followed
  obtain ⟨_, _, _, sameNetwork, sameRead, -, sameIris, sameAssembled⟩ := again
  cases network.symm.trans sameNetwork
  cases read.symm.trans sameRead
  cases areIris.symm.trans sameIris
  exact Except.ok.inj (assembled.symm.trans sameAssembled)

theorem eraseDups_eq_nil {links : List NetworkLink} {ends : List Iri}
    (areIris : (linkEnds links).mapM Iri.ofText = .ok ends) : ends.eraseDups = [] ↔ links = [] := by
  have texts := map_text_of_mapM areIris
  rw [List.eq_nil_iff_forall_not_mem]
  simp only [List.mem_eraseDups]
  rw [← List.eq_nil_iff_forall_not_mem, ← List.map_eq_nil_iff (f := Iri.text), texts]
  cases links <;> simp [linkEnds]

/-- Either nothing follows on the links, or the query that does is sent, and its rows are the
nodes. -/
theorem network_cases {nodesQuery : String} (network : query.shape = .network nodesQuery)
    (rows : List Solution) :
    ((∀ text, ¬search.FollowedBy query rows text) ∧
      Still (search.network query nodesQuery rows) (·.2 = query.text)) ∨
    ∃ text, search.FollowedBy query rows text ∧ ∃ last : List Solution → Run (ListingData × String),
      search.network query nodesQuery rows = search.execute text >>= last ∧
      ∀ nodeRows, Still (last nodeRows) (·.2 = query.text ++ "\n\n" ++ text) := by
  -- The steps before the second query fail or find no ends, and only then nothing follows.
  unfold Search.network
  cases read : readLinks rows with
  | error fault =>
      refine .inl ⟨?_, still_lift_bind _ (by simp)⟩
      rintro text ⟨_, _, _, -, known, -⟩
      cases read.symm.trans known
  | ok links =>
      rw [Run.lift_bind _ _ rfl]
      cases found : linkEndpoints links with
      | error fault =>
          refine .inl ⟨?_, still_lift_bind _ (by simp)⟩
          rintro text ⟨_, _, ends, -, known, -, areIris, -⟩
          cases read.symm.trans known
          cases found.symm.trans (linkEndpoints_eq_ok.mpr ⟨ends, areIris, rfl⟩)
      | ok endpoints =>
          obtain ⟨ends, areIris, rfl⟩ := linkEndpoints_eq_ok.mp found
          rw [Run.lift_bind _ _ rfl]
          by_cases nothing : ends.eraseDups.isEmpty = true
          · rw [if_pos nothing]
            refine .inl ⟨?_, still_pure rfl⟩
            rintro text ⟨_, _, _, -, known, nonempty, -⟩
            cases read.symm.trans known
            exact nonempty ((eraseDups_eq_nil areIris).mp (List.isEmpty_iff.mp nothing))
          · rw [if_neg nothing]
            cases assembled : search.assembler.assembleNodes nodesQuery ends.eraseDups with
            | error fault =>
                refine .inl ⟨?_, still_lift_bind _ (by simp)⟩
                rintro text ⟨_, _, _, sameNetwork, known, -, sameIris, made⟩
                cases network.symm.trans sameNetwork
                cases read.symm.trans known
                cases areIris.symm.trans sameIris
                cases assembled.symm.trans made
            | ok text =>
                rw [Run.lift_bind _ _ rfl]
                have nonempty : links ≠ [] := fun noLink =>
                  nothing (List.isEmpty_iff.mpr ((eraseDups_eq_nil areIris).mpr noLink))
                refine .inr ⟨text, ⟨nodesQuery, links, ends, network, read, nonempty,
                  areIris, assembled⟩,
                  _, rfl, fun nodeRows => (still_lift _ _).bind fun _ _ => still_pure rfl⟩

/-- A response that tells a text as the one that was sent. -/
def Tells (response : Json.Value) (text : String) : Prop :=
  ∃ members, response = .object members ∧ Json.lookup "sparqlQuery" members = some (.text text)

/-- The data of a listing and the text of the queries that found it. -/
def gather (search : Search) (query : AssembledQuery) (rows : List Solution) :
    Run (ListingData × String) :=
  match query.shape with
  | .network nodesQuery => search.network query nodesQuery rows
  | shape => do
    let data ← Run.lift .mapping (readListing shape rows)
    return (data, query.text)

/-- What is made of the rows of the query for a request. -/
def respond (search : Search) (query : AssembledQuery) (rows : List Solution) :
    Request → Run Json.Value
  | .count resultClass _ => do
    let count ← Run.lift .mapping (readCount rows)
    Run.log (.counted resultClass count)
    return CountResponse.toJson ⟨resultClass, count, query.text⟩
  | .resultSet resultClass _ page _ => do
    let objects ← Run.lift .mapping (readPage rows)
    Run.log (.fetchedPage resultClass page.number.toNat rows.length objects.length)
    return PageResponse.toJson ⟨resultClass, page, objects, query.text⟩
  | .listing resultClass _ _ _ => do
    let gathered ← search.gather query rows
    Run.log (.fetchedListing resultClass rows.length)
    return ListingResponse.toJson ⟨resultClass, gathered.1, gathered.2⟩
  | .lookup resultClass _ _ uri => do
    let objects ← Run.lift .mapping (readObjects rows)
    Run.log (.fetchedInstance resultClass uri objects.head?.isSome)
    return LookupResponse.toJson ⟨resultClass, objects.head?, query.text⟩

/-- Every request is compiled and sent, and its rows are made into a response. -/
theorem serve_eq (search : Search) (request : Request) :
    search.serve request = (do
      let query ← search.compile request
      let rows ← search.execute query.text
      search.respond query rows request) := by
  cases request with
  | listing resultClass facetClass constraints groupBy =>
      simp only [serve, listing, respond, gather, map_bind]
      refine bind_congr fun query => bind_congr fun rows => ?_
      cases query.shape <;> simp only [map_bind, map_pure, bind_assoc, pure_bind]
  | _ => simp only [serve, count, page, lookup, respond, map_bind, map_pure]

theorem tells_count (response : CountResponse) : Tells response.toJson response.query :=
  ⟨_, rfl, rfl⟩

theorem tells_page (response : PageResponse) : Tells response.toJson response.query :=
  ⟨_, rfl, rfl⟩

theorem tells_listing (response : ListingResponse) : Tells response.toJson response.query :=
  ⟨_, rfl, rfl⟩

theorem tells_lookup (response : LookupResponse) : Tells response.toJson response.query :=
  ⟨_, rfl, rfl⟩

/-- A network is gathered from two queries, every other listing from one. -/
theorem gather_cases (query : AssembledQuery) (rows : List Solution) :
    ((∀ text, ¬search.FollowedBy query rows text) ∧
      Still (search.gather query rows) (·.2 = query.text)) ∨
    ∃ text, search.FollowedBy query rows text ∧ ∃ last : List Solution → Run (ListingData × String),
      search.gather query rows = search.execute text >>= last ∧
      ∀ nodeRows, Still (last nodeRows) (·.2 = query.text ++ "\n\n" ++ text) := by
  unfold gather
  cases shape : query.shape with
  | network nodesQuery => exact network_cases shape rows
  | _ =>
      refine .inl ⟨?_, (still_lift _ _).bind fun _ _ => still_pure rfl⟩
      rintro text ⟨nodesQuery, _, _, network, -⟩
      cases shape.symm.trans network

/-- The rows of a query are made into a response at once, or behind the query that follows. -/
theorem respond_cases {request : Request} (suits : ∀ nodesQuery,
      query.shape = .network nodesQuery → request.purpose = .listing) (rows : List Solution) :
    ((∀ text, ¬search.FollowedBy query rows text) ∧
      Still (search.respond query rows request) (Tells · query.text)) ∨
    ∃ text, search.FollowedBy query rows text ∧ ∃ last : List Solution → Run Json.Value,
      search.respond query rows request = search.execute text >>= last ∧
      ∀ nodeRows, Still (last nodeRows) (Tells · (query.text ++ "\n\n" ++ text)) := by
  have single : request.purpose ≠ .listing → ∀ text, ¬search.FollowedBy query rows text := by
    rintro other text ⟨nodesQuery, _, _, network, -⟩
    exact other (suits nodesQuery network)
  cases request with
  | count resultClass constraints =>
      exact .inl ⟨single nofun, (still_lift _ _).bind fun count _ => (still_log _).bind fun _ _ =>
        still_pure (tells_count ⟨resultClass, count, query.text⟩)⟩
  | resultSet resultClass constraints page order =>
      exact .inl ⟨single nofun, (still_lift _ _).bind fun objects _ => (still_log _).bind fun _ _ =>
        still_pure (tells_page ⟨resultClass, page, objects, query.text⟩)⟩
  | lookup resultClass facetClass constraints uri =>
      exact .inl ⟨single nofun, (still_lift _ _).bind fun objects _ => (still_log _).bind fun _ _ =>
        still_pure (tells_lookup ⟨resultClass, objects.head?, query.text⟩)⟩
  | listing resultClass facetClass constraints groupBy =>
      have told : ∀ {gathered : ListingData × String} {text : String}, gathered.2 = text →
          Still (do
            Run.log (.fetchedListing resultClass rows.length)
            return ListingResponse.toJson ⟨resultClass, gathered.1, gathered.2⟩)
              (Tells · text) := by
        rintro gathered text rfl
        exact (still_log _).bind fun _ _ =>
          still_pure (tells_listing ⟨resultClass, gathered.1, gathered.2⟩)
      rcases @gather_cases search query rows with
        ⟨unfollowed, still⟩ | ⟨text, followed, last, gathers, still⟩
      · exact .inl ⟨unfollowed, still.bind fun _ same => told same⟩
      · refine .inr ⟨text, followed, fun nodeRows => last nodeRows >>= fun gathered => do
          Run.log (.fetchedListing resultClass rows.length)
          return ListingResponse.toJson ⟨resultClass, gathered.1, gathered.2⟩, ?_, fun nodeRows =>
            (still nodeRows).bind fun _ same => told same⟩
        rw [← bind_assoc, ← gathers]
        rfl

theorem execute_of_error {text : String} {trace : Trace} {fault : ExecutionFault}
    (failed : search.executor.answer trace.calls.length ⟨search.config.endpoint, text⟩ =
      .error fault) :
    (search.execute text).run trace = (.error (.execution fault),
      logged (called trace ⟨search.config.endpoint, text⟩)
        (.executionFailed search.config.endpoint fault)) := by
  unfold execute
  rw [Run.bind_of_ok (Run.get_eq_ok.mpr ⟨rfl, rfl⟩),
    Run.bind_of_ok ((@Run.set_eq_ok _ _ _ ()).mpr rfl), failed]
  rfl

/-- What a run has done for an assembled query, behind the calls of a trace. -/
structure Account (search : Search) (trace : Trace) (query : AssembledQuery) (more : List String)
    (outcome : Except Fault Json.Value) (later : Trace) : Prop where
  /-- The query is sent to the endpoint, and perhaps one more. -/
  calls : later.calls =
    trace.calls ++ (query.text :: more).map fun text => ⟨search.config.endpoint, text⟩
  atMostOne : more.length ≤ 1
  /-- Another query is sent exactly if it follows on the rows of the first one. -/
  follows : ∀ text, more = [text] ↔ ∃ rows,
    search.executor.answer trace.calls.length ⟨search.config.endpoint, query.text⟩ = .ok rows ∧
      search.FollowedBy query rows text
  /-- A fault of the executor is the outcome. -/
  fails : ∀ fault,
    search.executor.answer trace.calls.length ⟨search.config.endpoint, query.text⟩ = .error fault →
      outcome = .error (.execution fault)
  failsLater : ∀ text fault, more = [text] →
    search.executor.answer (trace.calls.length + 1) ⟨search.config.endpoint, text⟩ = .error fault →
      outcome = .error (.execution fault)
  /-- A response tells all that was sent. -/
  tells : ∀ response, outcome = .ok response →
    Tells response (Text.join "\n\n" (query.text :: more))

variable {request : Request}

/-- A query whose rows were answered, and perhaps the one that follows. -/
theorem account_of_rows {trace middle : Trace}
    (suits : ∀ nodesQuery, query.shape = .network nodesQuery → request.purpose = .listing)
    (answered : search.executor.answer trace.calls.length
      ⟨search.config.endpoint, query.text⟩ = .ok rows)
    (sent : middle.calls = trace.calls ++ [⟨search.config.endpoint, query.text⟩]) :
    ∃ more, Account search trace query more ((search.respond query rows request).run middle).1
      ((search.respond query rows request).run middle).2 := by
  have noFault : ∀ fault, search.executor.answer trace.calls.length
      ⟨search.config.endpoint, query.text⟩ ≠ .error fault := by simp [answered]
  have onRows : ∀ text, (∃ rows, search.executor.answer trace.calls.length
      ⟨search.config.endpoint, query.text⟩ = .ok rows ∧ search.FollowedBy query rows text) ↔
        search.FollowedBy query rows text := by simp [answered]
  rcases respond_cases suits rows with ⟨unfollowed, still⟩ | ⟨text, followed, last, responds, still⟩
  · obtain ⟨calls, tells⟩ := still middle
    exact ⟨[], calls.trans sent, by simp, fun text => by simp [onRows, unfollowed],
      fun fault failed => absurd failed (noFault fault), nofun, tells⟩
  · have number : middle.calls.length = trace.calls.length + 1 := by simp [sent]
    have follows : ∀ other, [text] = [other] ↔ ∃ rows, search.executor.answer trace.calls.length
        ⟨search.config.endpoint, query.text⟩ = .ok rows ∧ search.FollowedBy query rows other := by
      intro other
      rw [onRows, List.singleton_inj]
      exact ⟨fun same => same ▸ followed, followed.unique⟩
    rw [responds, Run.bind_run]
    cases later : search.executor.answer middle.calls.length ⟨search.config.endpoint, text⟩ with
    | error fault =>
        rw [execute_of_error later]
        rw [number] at later
        refine ⟨[text], by simp [logged, called, sent], by simp, follows,
          fun fault failed => absurd failed (noFault fault), ?_, nofun⟩
        rintro _ other ⟨⟩ again
        cases later.symm.trans again
        rfl
    | ok nodeRows =>
        rw [execute_eq_ok.mpr ⟨later, rfl⟩]
        rw [number] at later
        obtain ⟨calls, tells⟩ := still nodeRows (called middle ⟨search.config.endpoint, text⟩)
        refine ⟨[text], calls.trans (by simp [called, sent]), by simp, follows,
          fun fault failed => absurd failed (noFault fault), ?_, tells⟩
        rintro _ other ⟨⟩ again
        cases later.symm.trans again

theorem account_of_assemble (trace : Trace)
    (assembled : search.assembler.assemble request = .ok query) :
    ∃ more, Account search trace query more ((search.serve request).run trace).1
      ((search.serve request).run trace).2 := by
  have suits : ∀ nodesQuery, query.shape = .network nodesQuery → request.purpose = .listing := by
    intro nodesQuery network
    obtain ⟨_, _, _, _, rfl⟩ := Assembler.listing_of_network assembled network
    rfl
  rw [serve_eq, Run.bind_run, compile_eq_ok.mpr ⟨assembled, rfl⟩]
  generalize compiled : logged trace (.assembled request.purpose request.resultClass query.text) =
    middle
  have before : middle.calls = trace.calls := by
    rw [← compiled]
    rfl
  simp only [Run.bind_run]
  cases answered : search.executor.answer middle.calls.length
      ⟨search.config.endpoint, query.text⟩ with
  | error fault =>
      rw [execute_of_error answered]
      rw [before] at answered
      refine ⟨[], by simp [logged, called, before], by simp, by simp [answered], ?_, nofun, nofun⟩
      intro other again
      cases answered.symm.trans again
      rfl
  | ok rows =>
      rw [execute_eq_ok.mpr ⟨answered, rfl⟩]
      rw [before] at answered
      exact account_of_rows suits answered (by simp [called, before])

/-- A request that is refused is answered with the fault of its assembly, and nothing is sent.
Every other one is accounted for: its query is sent, and another one only for the nodes of a
network, whose two queries can be told apart in the response of the manuscript portal. -/
theorem serve_sends_and_tells (search : Search) (request : Request) (trace : Trace) :
    (∀ fault, search.assembler.assemble request = .error fault →
      (search.serve request).run trace = (.error fault, trace)) ∧
    ∀ query, search.assembler.assemble request = .ok query →
      ∃ more, Account search trace query more ((search.serve request).run trace).1
          ((search.serve request).run trace).2 ∧
        (request.purpose ≠ .listing ∨ (∀ nodesQuery, query.shape ≠ .network nodesQuery) →
          more = []) ∧
        (search.portal = Manuscripts.portal → ∀ text, more = [text] →
          Text.splitEmptyLine? (Text.join "\n\n" (query.text :: more)).toList =
            some (query.text.toList, text.toList)) := by
  constructor
  · intro fault refused
    rw [serve_eq, Run.bind_run]
    unfold compile
    rw [refused, Run.bind_run]
    rfl
  · intro query assembled
    obtain ⟨more, account⟩ := account_of_assemble trace assembled
    have network : ∀ text, more = [text] → ∃ nodesQuery, query.shape = .network nodesQuery := by
      intro text one
      obtain ⟨_, -, nodesQuery, _, _, network, -⟩ := (account.follows text).mp one
      exact ⟨nodesQuery, network⟩
    refine ⟨more, account, fun single => ?_, fun manuscripts text one => ?_⟩
    · cases more with
      | nil => rfl
      | cons text rest =>
          obtain rfl : rest = [] := by simpa using account.atMostOne
          obtain ⟨nodesQuery, network⟩ := network text rfl
          rcases single with other | noNetwork
          · obtain ⟨_, _, _, _, rfl⟩ := Assembler.listing_of_network assembled network
            exact absurd rfl other
          · exact absurd network (noNetwork nodesQuery)
    · subst one
      obtain ⟨nodesQuery, network⟩ := network text rfl
      exact (Manuscripts.dense_links manuscripts assembled network).split text

end Search

end FacetedQuery
