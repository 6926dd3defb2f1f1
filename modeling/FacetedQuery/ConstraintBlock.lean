import FacetedQuery.Filter
import FacetedQuery.Portal

/-!
# Constraint blocks

The conjunction of the filters of a request.  Every constraint that restricts the result is
checked against its facet and becomes a filter; without one nothing of the portal is consulted.
-/

namespace FacetedQuery

open Clause (Pattern)
open Rdf (Iri Variable)

/-- The patterns of all active constraints. -/
structure ConstraintBlock where
  elements : List Pattern

namespace ConstraintBlock

def empty : ConstraintBlock :=
  ⟨[]⟩

def isEmpty (block : ConstraintBlock) : Bool :=
  block.elements.isEmpty

/-- The patterns on lines of their own; a block without any is a comment. -/
def render (block : ConstraintBlock) : String :=
  if block.isEmpty then "# no filters"
  else Text.join "\n" (block.elements.map Pattern.render)

/-- The IRIs of a constraint; blank ones are left out. -/
def checkUris (items : List String) : Except ValidationFault (List Iri) :=
  ((items.map Text.trim).filter (· != "")).mapM fun item =>
    match Iri.ofText item with
    | .ok iri => .ok iri
    | .error fault => .error (.invalidIri item fault)

/-- The date of an end of a range, if it has that end. -/
def checkBound (edge : YearEdge) :
    Option TimeBound → Except ValidationFault (Option Calendar.Date)
  | none => .ok none
  | some bound => do
    let date ← bound.date edge
    return some date

def checkRange (facet : String) (range : TimeRange) : Except ValidationFault FilterValue := do
  let min ← checkBound .first range.lower?
  let max ← checkBound .last range.upper?
  match min, max with
  | some first, some last =>
    if first.isAfter last then .error (.invertedTimeRange facet first.render last.render)
    else return .timespan min max
  | _, _ => return .timespan min max

def checkBox (facet : String) (box : GeoBox) : Except ValidationFault FilterValue :=
  match box.fault? with
  | some reason => .error (.invalidBox facet reason)
  | none => .ok (.box box)

/-- Checks a constraint against its facet and brings its value into normal form. -/
def checkValue (facet : Facet) (constraint : Constraint) : Except ValidationFault FilterValue :=
  if facet.accepts constraint.kind then
    match constraint.value with
    | .uris items => do
      let iris ← checkUris items
      return .uris iris constraint.withSubconcepts
    | .text content => .ok (.text (Text.lowercase (Text.trim content)))
    | .timespan range => checkRange facet.id range
    | .box corners => checkBox facet.id corners
  else .error (.filterKindMismatch facet.id facet.kind.name constraint.kind.name)

/-- The patterns of one constraint. -/
def fragment (facetClass : String) (spec : ResultClass) (target : Variable)
    (entry : String × Constraint) : Except Fault (List Pattern) := do
  let facet ← (spec.facet entry.1).mapError .configuration
  let value ← (checkValue facet entry.2).mapError .validation
  (Filter.patterns facetClass facet target value).mapError .configuration

/-- The block of constraints that are active. -/
def ofActive (portal : Portal) (facetClass filterTarget : String)
    (entries : List (String × Constraint)) : Except Fault ConstraintBlock := do
  let spec ← (portal.resultClass facetClass).mapError .configuration
  match Variable.ofName? filterTarget with
  | none => .error (.configuration (.invalidVariableName filterTarget))
  | some target =>
    let fragments ← entries.mapM (fragment facetClass spec target)
    return ⟨fragments.flatten⟩

/-- The block that restricts a variable by constraints, read with the facets of a class. -/
def compose (portal : Portal) (facetClass : String) (constraints : Option ConstraintSet)
    (filterTarget : String) : Except Fault ConstraintBlock :=
  match constraints with
  | none => .ok empty
  | some set =>
    if set.isBlank then .ok empty else ofActive portal facetClass filterTarget set.active

end ConstraintBlock

end FacetedQuery
