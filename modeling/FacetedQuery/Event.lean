import FacetedQuery.Request

/-!
# Events

What is logged while requests are served.  Every event has a level, a message and named fields,
whose values are texts.
-/

namespace FacetedQuery

inductive EventLevel where
  | debug
  | info
  | warning
deriving DecidableEq

inductive Event where
  | assembled (purpose : QueryPurpose) (resultClass query : String)
  | validated (resultClasses listings lookups : Nat)
  | received (endpoint : String) (rows : Nat)
  | counted (resultClass : String) (count : Nat)
  | fetchedPage (resultClass : String) (page rows objects : Nat)
  | fetchedListing (resultClass : String) (rows : Nat)
  | fetchedInstance (resultClass uri : String) (found : Bool)
  | executionFailed (endpoint : String) (fault : ExecutionFault)
deriving DecidableEq

namespace Event

def level : Event → EventLevel
  | .assembled .. => .debug
  | .validated .. => .debug
  | .received .. => .debug
  | .counted .. => .info
  | .fetchedPage .. => .info
  | .fetchedListing .. => .info
  | .fetchedInstance .. => .info
  | .executionFailed .. => .warning

def message : Event → String
  | .assembled purpose _ _ => "Assembled " ++ purpose.name ++ " query"
  | .validated .. => "Validated portal schema"
  | .received .. => "Received query results"
  | .counted .. => "Counted results"
  | .fetchedPage .. => "Fetched result page"
  | .fetchedListing .. => "Fetched listing"
  | .fetchedInstance .. => "Fetched instance"
  | .executionFailed .. => "Query execution failed"

def truth (value : Bool) : String :=
  if value then "true" else "false"

/-- The fields of an event in the order in which they are logged. -/
def fields : Event → List (String × String)
  | .assembled _ resultClass query => [("result_class", resultClass), ("query", query)]
  | .validated resultClasses listings lookups =>
    [("result_classes", Decimal.natural resultClasses), ("listings", Decimal.natural listings),
      ("lookups", Decimal.natural lookups)]
  | .received endpoint rows => [("endpoint", endpoint), ("rows", Decimal.natural rows)]
  | .counted resultClass count =>
    [("result_class", resultClass), ("count", Decimal.natural count)]
  | .fetchedPage resultClass page rows objects =>
    [("result_class", resultClass), ("page", Decimal.natural page),
      ("rows", Decimal.natural rows), ("objects", Decimal.natural objects)]
  | .fetchedListing resultClass rows =>
    [("result_class", resultClass), ("rows", Decimal.natural rows)]
  | .fetchedInstance resultClass uri found =>
    [("result_class", resultClass), ("uri", uri), ("found", truth found)]
  | .executionFailed endpoint fault => [("endpoint", endpoint), ("error", fault.message)]

end Event

end FacetedQuery
