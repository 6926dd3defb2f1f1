import FacetedQuery.Fault
import FacetedQuery.Json.Fields
import FacetedQuery.Text.Lowercase

/-!
# Pages and sorting

A page is one stretch of a sorted result.  Its window tells how many rows to take and how many to
skip, both as unsigned integers of 64 bits.
-/

namespace FacetedQuery

open Json (Value)

inductive SortDirection where
  | ascending
  | descending
deriving DecidableEq, Repr

namespace SortDirection

/-- The keyword of the order in a query. -/
def keyword : SortDirection → String
  | .ascending => "ASC"
  | .descending => "DESC"

def name : SortDirection → String
  | .ascending => "asc"
  | .descending => "desc"

def ofName? (name : String) : Option SortDirection :=
  if name == "asc" then some .ascending
  else if name == "desc" then some .descending
  else none

/-- Reads a direction in any case of letters; the error is a sentence for the user. -/
def read (text : String) : Except String SortDirection :=
  match ofName? (Text.asciiLowercase text) with
  | some direction => .ok direction
  | none => .error ("'" ++ text ++ "' is not a sort direction, use 'asc' or 'desc'")

def ofJson? (value : Value) : Option SortDirection := do
  let alternative ← value.alternative?
  if alternative.isBare then ofName? alternative.name else none

end SortDirection

/-- A page of a result; the first page has number zero. -/
structure Page where
  number : UInt64
  size : UInt64
deriving DecidableEq

/-- The rows that make up a page. -/
structure Window where
  limit : Nat
  offset : Nat
deriving DecidableEq

namespace Page

/-- The window of a page, if the page has rows and their numbers fit. -/
def window (page : Page) : Except ValidationFault Window :=
  let limit := page.size.toNat
  let offset := page.number.toNat * limit
  if limit = 0 then .error .emptyPage
  else if offset < UInt64.size then .ok ⟨limit, offset⟩
  else .error (.pageOutOfRange page.number.toNat limit)

def ofJson? (value : Value) : Option Page := do
  let fields ← value.fields? ["page", "pageSize"]
  return {
    number := ← fields.required? "page" Value.unsigned64?
    size := ← fields.required? "pageSize" Value.unsigned64? }

def toJson (page : Page) : Value :=
  .object [("page", .natural page.number.toNat), ("pageSize", .natural page.size.toNat)]

end Page

/-- How a result is sorted.  Without a key the class has its own. -/
structure SortOrder where
  key : Option String
  direction : SortDirection
deriving DecidableEq

namespace SortOrder

def default : SortOrder :=
  ⟨none, .ascending⟩

def ofJson? (value : Value) : Option SortOrder := do
  let fields ← value.fields? ["sortBy", "sortDirection"]
  return {
    key := ← fields.optional? "sortBy" Value.text?
    direction := ← fields.withDefault? "sortDirection" .ascending SortDirection.ofJson? }

def toJson (order : SortOrder) : Value :=
  .object [("sortBy", .ofText? order.key), ("sortDirection", .text order.direction.name)]

end SortOrder

end FacetedQuery
