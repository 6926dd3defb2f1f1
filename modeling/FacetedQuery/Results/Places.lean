import FacetedQuery.Json.Value
import FacetedQuery.Results.Column

/-!
# Places

Rows as places on a map and as bare coordinates.
-/

namespace FacetedQuery

structure Coordinates where
  latitude : Float
  longitude : Float

/-- A place on a map. -/
structure Place where
  id : String
  label : Option String
  location : Coordinates
  instanceCount : Option Nat

def Coordinates.toJson (coordinates : Coordinates) : Json.Value :=
  .object [("lat", .real coordinates.latitude), ("long", .real coordinates.longitude)]

def Place.toJson (place : Place) : Json.Value :=
  .object <| Json.presentMembers [
    ("id", some (.text place.id)),
    ("prefLabel", place.label.map .text),
    ("location", some place.location.toJson),
    ("instanceCount", place.instanceCount.map .natural)]

/-- The coordinates in a row. -/
def readLocation (row : Solution) (index : Nat) : Except MappingFault Coordinates := do
  let latitude ← row.number index .degrees "lat"
  let longitude ← row.number index .degrees "long"
  return ⟨latitude, longitude⟩

def readCoordinates (rows : List Solution) : Except MappingFault (List Coordinates) :=
  mapRows readLocation rows

/-- The place in a row. -/
def readPlace (row : Solution) (index : Nat) (id : String) : Except MappingFault Place := do
  let location ← readLocation row index
  let instanceCount ← row.number? index .count "instanceCount"
  return ⟨id, row.text? "prefLabel", location, instanceCount⟩

/-- Reads rows that have an id, each id once; further rows with it are passed over. -/
def readDistinct (id : α → String)
    (read : Solution → Nat → String → Except MappingFault α) (rows : List Solution) :
    Except MappingFault (List α) :=
  rows.zipIdx.foldlM (fun found row => do
    let key ← row.1.text row.2 "id"
    if found.any (id · == key) then return found
    else return found ++ [← read row.1 row.2 key]) []

/-- The places of rows, of which the first one of each place counts. -/
def readPlaces (rows : List Solution) : Except MappingFault (List Place) :=
  readDistinct Place.id readPlace rows

end FacetedQuery
