import FacetedQuery.Assembly
import FacetedQuery.Event
import FacetedQuery.Response

/-!
# Serving requests

Each request is assembled, sent to an executor, and its rows are made into a response.  A fault in
any of these steps ends the request.  The trace of a run holds the queries that were sent and the
events that were logged, in order.
-/

namespace FacetedQuery

/-- The settings of a search. -/
structure SearchConfig where
  endpoint : String
  /-- How long a query may take, in milliseconds. -/
  timeout : Nat
  /-- Whether queries are checked before they are sent. -/
  validates : Bool
deriving DecidableEq

namespace SearchConfig

def default : SearchConfig where
  endpoint := "http://ldf.fi/mmm/sparql"
  timeout := 60000
  validates := true

end SearchConfig

/-- A query that was sent to an endpoint. -/
structure Call where
  endpoint : String
  query : String
deriving DecidableEq

/-- What answers queries.  The answer may depend on the number of calls before. -/
structure Executor where
  answer : Nat → Call → Except ExecutionFault (List Solution)

/-- What happened so far. -/
structure Trace where
  calls : List Call
  events : List Event
deriving DecidableEq

namespace Trace

def empty : Trace :=
  ⟨[], []⟩

end Trace

/-- A portal with the settings and the executor by which its requests are served. -/
structure Search where
  portal : Portal
  config : SearchConfig
  executor : Executor

/-- A run that leaves a trace and may end with a fault. -/
abbrev Run := ExceptT Fault (StateM Trace)

namespace Run

def log (event : Event) : Run Unit :=
  modify fun trace => { trace with events := trace.events ++ [event] }

/-- The value of an outcome in a run. -/
def lift (wrap : ε → Fault) (outcome : Except ε α) : Run α :=
  liftExcept (outcome.mapError wrap)
where
  liftExcept (outcome : Except Fault α) : Run α :=
    match outcome with
    | .ok value => pure value
    | .error fault => throw fault

end Run

namespace Search

def assembler (search : Search) : Assembler :=
  ⟨search.portal, search.config.validates⟩

/-- The query of a request. -/
def compile (search : Search) (request : Request) : Run AssembledQuery := do
  let query ← Run.lift id (search.assembler.assemble request)
  Run.log (.assembled request.purpose request.resultClass query.text)
  return query

/-- Sends a query. -/
def execute (search : Search) (query : String) : Run (List Solution) := do
  let trace ← get
  let call : Call := ⟨search.config.endpoint, query⟩
  set { trace with calls := trace.calls ++ [call] }
  match search.executor.answer trace.calls.length call with
  | .ok rows => return rows
  | .error fault => do
    Run.log (.executionFailed search.config.endpoint fault)
    throw (.execution fault)

/-- Counts the instances of a class that satisfy the constraints. -/
def count (search : Search) (resultClass : String) (constraints : Option ConstraintSet) :
    Run CountResponse := do
  let query ← search.compile (.count resultClass constraints)
  let rows ← search.execute query.text
  let count ← Run.lift .mapping (readCount rows)
  Run.log (.counted resultClass count)
  return ⟨resultClass, count, query.text⟩

/-- Fetches one sorted page of the instances of a class. -/
def page (search : Search) (resultClass : String) (constraints : Option ConstraintSet)
    (page : Page) (order : SortOrder) : Run PageResponse := do
  let query ← search.compile (.resultSet resultClass constraints page order)
  let rows ← search.execute query.text
  let objects ← Run.lift .mapping (readPage rows)
  Run.log (.fetchedPage resultClass page.number.toNat rows.length objects.length)
  return ⟨resultClass, page, objects, query.text⟩

/-- The graph of links.  The nodes of at least one link are fetched by a second query, which
follows the first one in the text of the response. -/
def network (search : Search) (query : AssembledQuery) (nodesQuery : String)
    (rows : List Solution) : Run (ListingData × String) := do
  let links ← Run.lift .mapping (readLinks rows)
  let endpoints ← Run.lift .mapping (linkEndpoints links)
  if endpoints.isEmpty then return (.network .empty, query.text)
  else
    let nodesText ← Run.lift .configuration
      (search.assembler.assembleNodes nodesQuery endpoints)
    let nodeRows ← search.execute nodesText
    let nodes ← Run.lift .mapping (readNodes nodeRows)
    return (.network ⟨nodes, links⟩, query.text ++ "\n\n" ++ nodesText)

/-- Fetches the listing of a class. -/
def listing (search : Search) (resultClass : String) (facetClass : Option String)
    (constraints : Option ConstraintSet) (groupBy : Bool) : Run ListingResponse := do
  let query ← search.compile (.listing resultClass facetClass constraints groupBy)
  let rows ← search.execute query.text
  let (data, text) ← match query.shape with
    | .network nodesQuery => search.network query nodesQuery rows
    | shape => do
      let data ← Run.lift .mapping (readListing shape rows)
      pure (data, query.text)
  Run.log (.fetchedListing resultClass rows.length)
  return ⟨resultClass, data, text⟩

/-- Fetches a single entity, whose related instances the constraints restrict. -/
def lookup (search : Search) (resultClass : String) (facetClass : Option String)
    (constraints : Option ConstraintSet) (uri : String) : Run LookupResponse := do
  let query ← search.compile (.lookup resultClass facetClass constraints uri)
  let rows ← search.execute query.text
  let objects ← Run.lift .mapping (readObjects rows)
  let object := objects.head?
  Run.log (.fetchedInstance resultClass uri object.isSome)
  return ⟨resultClass, object, query.text⟩

/-- Serves a request; the response is given as a document. -/
def serve (search : Search) : Request → Run Json.Value
  | .count resultClass constraints =>
    CountResponse.toJson <$> search.count resultClass constraints
  | .resultSet resultClass constraints page order =>
    PageResponse.toJson <$> search.page resultClass constraints page order
  | .listing resultClass facetClass constraints groupBy =>
    ListingResponse.toJson <$> search.listing resultClass facetClass constraints groupBy
  | .lookup resultClass facetClass constraints uri =>
    LookupResponse.toJson <$> search.lookup resultClass facetClass constraints uri

end Search

end FacetedQuery
