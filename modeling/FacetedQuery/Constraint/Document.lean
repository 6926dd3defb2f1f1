import FacetedQuery.Constraint
import FacetedQuery.Json.Fields
import FacetedQuery.Json.Reader

/-!
# Constraints as documents

A constraint is an object whose first member with the name of a filter kind is its value; the
flag for subconcepts stands beside it and nothing else is looked at, though it has to denote
something.  Constraints are an object of these by facet ids.
-/

namespace FacetedQuery

open Json (Value)

/-- How deep the members of a constraint may be nested. -/
def Constraint.greatestDepth : Nat :=
  125

/-- The name of the flag for subconcepts. -/
def Constraint.subconceptsKey : String :=
  "selectAlsoSubconcepts"

def TimeBound.ofJson? : Value → Option TimeBound
  | .text content => some (.text content)
  | value => value.signed64?.map .year

def TimeBound.toJson : TimeBound → Value
  | .year value => .integer value.toInt
  | .text content => .text content

def TimeRange.ofJson? (value : Value) : Option TimeRange := do
  let fields ← value.fields? ["min", "max"]
  return {
    min := ← fields.optional? "min" TimeBound.ofJson?
    max := ← fields.optional? "max" TimeBound.ofJson? }

def TimeRange.toJson (range : TimeRange) : Value :=
  .object [
    ("min", (range.min.map TimeBound.toJson).getD .null),
    ("max", (range.max.map TimeBound.toJson).getD .null)]

def GeoBox.ofJson? (value : Value) : Option GeoBox := do
  let fields ← value.fields? ["latMin", "longMin", "latMax", "longMax"]
  return {
    latMin := ← fields.required? "latMin" Value.float?
    longMin := ← fields.required? "longMin" Value.float?
    latMax := ← fields.required? "latMax" Value.float?
    longMax := ← fields.required? "longMax" Value.float? }

def GeoBox.toJson (box : GeoBox) : Value :=
  .object [
    ("latMin", .real box.latMin), ("longMin", .real box.longMin),
    ("latMax", .real box.latMax), ("longMax", .real box.longMax)]

namespace ConstraintValue

def ofJson? (kind : FilterKind) (value : Value) : Option ConstraintValue :=
  match kind with
  | .uri => (value.list? Value.text?).map .uris
  | .text => value.text?.map .text
  | .timespan => (TimeRange.ofJson? value).map .timespan
  | .spatial => (GeoBox.ofJson? value).map .box

def toJson : ConstraintValue → Value
  | .uris items => .array (items.map .text)
  | .text content => .text content
  | .timespan range => range.toJson
  | .box corners => corners.toJson

end ConstraintValue

namespace Constraint

/-- The value under the first member that has the name of a kind. -/
def firstValue? : List (String × Value) → Option ConstraintValue
  | [] => none
  | (key, value) :: members =>
    match FilterKind.ofName? key with
    | some kind => ConstraintValue.ofJson? kind value
    | none => firstValue? members

/-- Whether a member can be taken in, whatever its meaning. -/
def isAdmissible (member : String × Value) : Bool :=
  member.1 == subconceptsKey || (member.2.isReadable && member.2.depth ≤ greatestDepth)

def ofJson? : Value → Option Constraint
  | .object members => do
    if !members.all isAdmissible then none
    let fields ← (Value.object members).fields? [subconceptsKey]
    let withSubconcepts ← fields.withDefault? subconceptsKey false Value.boolean?
    return ⟨← firstValue? members, withSubconcepts⟩
  | _ => none

def toJson (constraint : Constraint) : Value :=
  .object <|
    (constraint.kind.name, constraint.value.toJson) ::
      if constraint.withSubconcepts then [(subconceptsKey, .boolean true)] else []

end Constraint

namespace ConstraintSet

def ofJson? : Value → Option ConstraintSet
  | .object members => do
    let entries ← members.mapM fun member =>
      (Constraint.ofJson? member.2).map (member.1, ·)
    return ofList entries
  | _ => none

def toJson (set : ConstraintSet) : Value :=
  .object (set.entries.map fun entry => (entry.1, entry.2.toJson))

/-- Reads the text of a document as constraints. -/
def read? (document : String) : Option ConstraintSet :=
  (Json.read? document.toList).bind ofJson?

end ConstraintSet

end FacetedQuery
