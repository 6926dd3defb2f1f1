import FacetedQuery.Facet
import FacetedQuery.Json.Fields

/-!
# Facets as documents

The members of the documents that describe facets.  Paths that are absent are not written.
-/

namespace FacetedQuery

open Json (Value)

def FilterKind.ofJson? (value : Value) : Option FilterKind := do
  let alternative ← value.alternative?
  if alternative.isBare then ofName? alternative.name else none

namespace TimespanPaths

def ofJson? (value : Value) : Option TimespanPaths := do
  let fields ← value.fields?
    ["startProperty", "endProperty", "sortByAscPredicate", "sortByDescPredicate"]
  return {
    start := ← fields.required? "startProperty" Value.text?
    stop := ← fields.required? "endProperty" Value.text?
    sortAscending := ← fields.optional? "sortByAscPredicate" Value.text?
    sortDescending := ← fields.optional? "sortByDescPredicate" Value.text? }

def toJson (paths : TimespanPaths) : Value :=
  .object <| Json.presentMembers [
    ("startProperty", some (.text paths.start)),
    ("endProperty", some (.text paths.stop)),
    ("sortByAscPredicate", paths.sortAscending.map .text),
    ("sortByDescPredicate", paths.sortDescending.map .text)]

end TimespanPaths

namespace SpatialPaths

def ofJson? (value : Value) : Option SpatialPaths := do
  let fields ← value.fields? ["latProperty", "longProperty"]
  return {
    latitude := ← fields.required? "latProperty" Value.text?
    longitude := ← fields.required? "longProperty" Value.text? }

def toJson (paths : SpatialPaths) : Value :=
  .object [("latProperty", .text paths.latitude), ("longProperty", .text paths.longitude)]

end SpatialPaths

namespace Facet

/-- The hierarchy of a facet is a structure whose one field is the path to the parent. -/
def parentOfJson? (value : Value) : Option String := do
  let fields ← value.fields? ["parentProperty"]
  fields.required? "parentProperty" Value.text?

def parentToJson (path : String) : Value :=
  .object [("parentProperty", .text path)]

def ofJson? (value : Value) : Option Facet := do
  let fields ← value.fields? ["id", "filterType", "predicate", "labelPath", "hierarchy",
    "timespan", "spatial", "priority"]
  return {
    id := ← fields.required? "id" Value.text?
    kind := ← fields.required? "filterType" FilterKind.ofJson?
    predicate := ← fields.optional? "predicate" Value.text?
    labelPath := ← fields.optional? "labelPath" Value.text?
    parent := ← fields.optional? "hierarchy" parentOfJson?
    timespan := ← fields.optional? "timespan" TimespanPaths.ofJson?
    spatial := ← fields.optional? "spatial" SpatialPaths.ofJson?
    priority := ← fields.withDefault? "priority" 0 Value.unsigned32? }

def toJson (facet : Facet) : Value :=
  .object <| Json.presentMembers [
    ("id", some (.text facet.id)),
    ("filterType", some (.text facet.kind.name)),
    ("predicate", facet.predicate.map .text),
    ("labelPath", facet.labelPath.map .text),
    ("hierarchy", facet.parent.map parentToJson),
    ("timespan", facet.timespan.map TimespanPaths.toJson),
    ("spatial", facet.spatial.map SpatialPaths.toJson),
    ("priority", some (.natural facet.priority.toNat))]

end Facet

end FacetedQuery
