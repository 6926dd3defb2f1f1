import FacetedQuery.Decimal.Digits
import FacetedQuery.Rdf.Iri
import FacetedQuery.Text.Blank

/-!
# Faults

Everything that can go wrong between a faceted request and its response.  A fault is one of the
deployment, of the request, of the execution or of the returned rows.  Each ends the request, and
only a fault of the execution may vanish when the request is sent again.
-/

namespace FacetedQuery

/-- A malformed part of a request. -/
inductive ValidationFault where
  | filterKindMismatch (facet expected actual : String)
  | invalidIri (iri : String) (fault : Rdf.IriFault)
  | invalidTimeBound (bound : String)
  | invertedTimeRange (facet start stop : String)
  | invalidBox (facet reason : String)
  | emptyPage
  | pageOutOfRange (page size : Nat)
deriving DecidableEq

namespace ValidationFault

def message : ValidationFault → String
  | .filterKindMismatch facet expected actual =>
    "Facet '" ++ facet ++ "' expects a " ++ expected ++ " but a " ++ actual ++ " was given"
  | .invalidIri iri fault => "Invalid IRI '" ++ iri ++ "': " ++ fault.message
  | .invalidTimeBound bound =>
    "Invalid time bound '" ++ bound ++ "', expected a year or a YYYY-MM-DD date"
  | .invertedTimeRange facet start stop =>
    "Time range of facet '" ++ facet ++ "' starts at " ++ start ++ " after it ends at " ++ stop
  | .invalidBox facet reason => "Invalid bounding box for facet '" ++ facet ++ "': " ++ reason
  | .emptyPage => "The page size must be greater than zero"
  | .pageOutOfRange page size =>
    "Page " ++ Decimal.natural page ++ " with page size " ++ Decimal.natural size ++
      " is out of range"

end ValidationFault

/-- Why an assembled query is refused. -/
inductive QueryDefect where
  | grammar
  | periodLength
  | request (fault : ValidationFault)
deriving DecidableEq

/-- Something that a request needs and the portal does not provide. -/
inductive ConfigurationFault where
  | unknownResultClass (id : String)
  | unknownFacet (facetClass facet : String)
  | missingPredicate (facetClass facet : String)
  | missingFacetProperty (facetClass facet property : String)
  | unknownSortKey (resultClass key : String)
  | unknownListing (resultClass : String)
  | unknownLookup (resultClass : String)
  | unresolvedPlaceholder (template placeholder : String)
  | invalidVariableName (name : String)
  | invalidPropertyPath (location path : String)
  | invalidQuery (template : String) (defect : QueryDefect)
  | unreadablePortal
deriving DecidableEq

namespace QueryDefect

/-- The words for a defect that follow the sentence about the query.  A violation of the grammar
is stated without them. -/
def detail : QueryDefect → String
  | .grammar => ""
  | .periodLength => ": the period length must be positive"
  | .request fault => ": " ++ fault.message

end QueryDefect

namespace ConfigurationFault

def message : ConfigurationFault → String
  | .unknownResultClass id => "Unknown result class '" ++ id ++ "'"
  | .unknownFacet facetClass facet =>
    "Facet '" ++ facet ++ "' is not defined for facet class '" ++ facetClass ++ "'"
  | .missingPredicate facetClass facet =>
    "Facet '" ++ facet ++ "' of facet class '" ++ facetClass ++ "' has no predicate path"
  | .missingFacetProperty facetClass facet property =>
    "Facet '" ++ facet ++ "' of facet class '" ++ facetClass ++ "' has no " ++ property
  | .unknownSortKey resultClass key =>
    "Result class '" ++ resultClass ++ "' cannot be sorted by '" ++ key ++ "'"
  | .unknownListing resultClass =>
    "No listing query is registered for result class '" ++ resultClass ++ "'"
  | .unknownLookup resultClass =>
    "No instance query is registered for result class '" ++ resultClass ++ "'"
  | .unresolvedPlaceholder template placeholder =>
    "Placeholder '" ++ placeholder ++ "' is unresolved in the " ++ template ++ " query"
  | .invalidVariableName name => "'" ++ name ++ "' cannot be used as a query variable name"
  | .invalidPropertyPath location path =>
    "Invalid property path '" ++ path ++ "' in " ++ location
  | .invalidQuery template defect =>
    "The assembled " ++ template ++ " query is not valid SPARQL" ++ defect.detail
  | .unreadablePortal => "Could not load the portal schema"

end ConfigurationFault

/-- The endpoint produced no rows. -/
inductive ExecutionFault where
  | transport (endpoint : String) (cause : Option String)
  | timeout (endpoint : String)
  | status (endpoint : String) (code : Nat) (body : String)
  | parse (endpoint : String)
  | notSolutions (endpoint : String)
deriving DecidableEq

namespace ExecutionFault

def message : ExecutionFault → String
  | .transport endpoint none => "Could not send the query to '" ++ endpoint ++ "'"
  | .transport endpoint (some cause) =>
    "Could not send the query to '" ++ endpoint ++ "': " ++ cause
  | .timeout endpoint => "The query to '" ++ endpoint ++ "' timed out"
  | .status endpoint code body =>
    "The endpoint '" ++ endpoint ++ "' answered with status " ++ Decimal.natural code ++ ": " ++
      body
  | .parse endpoint => "Could not parse the results returned by '" ++ endpoint ++ "'"
  | .notSolutions endpoint => "The endpoint '" ++ endpoint ++ "' did not return solutions"

end ExecutionFault

/-- Rows that do not have the shape that their reader expects. -/
inductive MappingFault where
  | missingColumn (column : String) (row : Nat)
  | invalidValue (column : String) (row : Nat) (value expected : String)
  | emptyResult
  | unsupportedShape (shape : String)
deriving DecidableEq

namespace MappingFault

def message : MappingFault → String
  | .missingColumn column row =>
    "Expected column '" ++ column ++ "' is missing in row " ++ Decimal.natural row
  | .invalidValue column row value expected =>
    "Column '" ++ column ++ "' in row " ++ Decimal.natural row ++ " holds '" ++ value ++
      "' which is not a valid " ++ expected
  | .emptyResult => "Expected a single row but the result is empty"
  | .unsupportedShape shape =>
    "The rows of a listing query cannot be mapped into the " ++ shape ++ " shape"

end MappingFault

/-- A fault of any kind. -/
inductive Fault where
  | configuration (fault : ConfigurationFault)
  | validation (fault : ValidationFault)
  | execution (fault : ExecutionFault)
  | mapping (fault : MappingFault)
deriving DecidableEq

namespace Fault

def message : Fault → String
  | .configuration fault => fault.message
  | .validation fault => fault.message
  | .execution fault => fault.message
  | .mapping fault => fault.message

/-- Whether the same request may succeed when it is sent again. -/
def isRetryable : Fault → Bool
  | .execution _ => true
  | _ => false

end Fault

end FacetedQuery
