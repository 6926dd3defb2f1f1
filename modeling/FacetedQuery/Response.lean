import FacetedQuery.Page
import FacetedQuery.Results.Listing

/-!
# Responses

What a served request answers: the data and the text of the query that found them.
-/

namespace FacetedQuery

/-- How many instances of a class satisfy the constraints. -/
structure CountResponse where
  resultClass : String
  count : Nat
  query : String

/-- One page of the instances of a class. -/
structure PageResponse where
  resultClass : String
  page : Page
  objects : List Record
  query : String

structure ListingResponse where
  resultClass : String
  data : ListingData
  query : String

/-- A single entity, if it was found. -/
structure LookupResponse where
  resultClass : String
  object : Option Record
  query : String

namespace CountResponse

def toJson (response : CountResponse) : Json.Value :=
  .object [
    ("resultClass", .text response.resultClass),
    ("count", .natural response.count),
    ("sparqlQuery", .text response.query)]

end CountResponse

namespace PageResponse

def toJson (response : PageResponse) : Json.Value :=
  .object [
    ("resultClass", .text response.resultClass),
    ("page", .natural response.page.number.toNat),
    ("pageSize", .natural response.page.size.toNat),
    ("data", .array (response.objects.map Record.toJson)),
    ("sparqlQuery", .text response.query)]

end PageResponse

namespace ListingResponse

def toJson (response : ListingResponse) : Json.Value :=
  .object [
    ("resultClass", .text response.resultClass),
    ("data", response.data.toJson),
    ("sparqlQuery", .text response.query)]

end ListingResponse

namespace LookupResponse

def toJson (response : LookupResponse) : Json.Value :=
  .object [
    ("resultClass", .text response.resultClass),
    ("data", (response.object.map Record.toJson).getD .null),
    ("sparqlQuery", .text response.query)]

end LookupResponse

end FacetedQuery
