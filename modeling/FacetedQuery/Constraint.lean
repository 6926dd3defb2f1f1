import FacetedQuery.Calendar.Date
import FacetedQuery.Fault
import FacetedQuery.Text.Blank

/-!
# Constraints

What a user asks of one facet: some of its values, a piece of a label, a range of time or a box on
the globe.  A value that says nothing restricts nothing; it is kept as it was given.
-/

namespace FacetedQuery

/-- The kinds of constraints. -/
inductive FilterKind where
  | uri
  | text
  | timespan
  | spatial
deriving DecidableEq, Repr

namespace FilterKind

def name : FilterKind → String
  | .uri => "uriFilter"
  | .text => "textFilter"
  | .timespan => "timespanFilter"
  | .spatial => "spatialFilter"

def all : List FilterKind :=
  [.uri, .text, .timespan, .spatial]

/-- The kind of a name. -/
def ofName? (name : String) : Option FilterKind :=
  all.find? fun kind => kind.name == name

end FilterKind

/-- One end of a range of time: a year, or a text that holds a year or a date. -/
inductive TimeBound where
  | year (value : Int64)
  | text (content : String)
deriving DecidableEq

/-- The first or the last day of a year. -/
inductive YearEdge where
  | first
  | last
deriving DecidableEq

namespace YearEdge

/-- The date at the edge of a year, if it lies in the range of dates. -/
def date? (edge : YearEdge) (year : Int) : Option Calendar.Date :=
  match edge with
  | .first => Calendar.Date.ofParts? year 1 1 none
  | .last => Calendar.Date.ofParts? year 12 31 none

end YearEdge

namespace TimeBound

/-- A bound that says nothing. -/
def isBlank : TimeBound → Bool
  | .year _ => false
  | .text content => Text.blank content

def yearDate (edge : YearEdge) (year : Int) : Except ValidationFault Calendar.Date :=
  match edge.date? year with
  | some date => .ok date
  | none => .error (.invalidTimeBound (Decimal.integer year))

/-- The day at which a bound lies; a year lies at its edge. -/
def date (edge : YearEdge) : TimeBound → Except ValidationFault Calendar.Date
  | .year value => yearDate edge value.toInt
  | .text content =>
    let trimmed := Text.trim content
    match Decimal.readSigned? trimmed.toList with
    | some number => yearDate edge number
    | none =>
      match Calendar.Date.read? trimmed with
      | some date => .ok date
      | none => .error (.invalidTimeBound trimmed)

/-- The first day that a bound covers. -/
def lowerDate (bound : TimeBound) : Except ValidationFault Calendar.Date :=
  bound.date .first

/-- The last day that a bound covers. -/
def upperDate (bound : TimeBound) : Except ValidationFault Calendar.Date :=
  bound.date .last

end TimeBound

/-- A range of time, either end of which may be open. -/
structure TimeRange where
  min : Option TimeBound
  max : Option TimeBound
deriving DecidableEq

namespace TimeRange

/-- The lower end, unless it is open or blank. -/
def lower? (range : TimeRange) : Option TimeBound :=
  range.min.filter (!·.isBlank)

/-- The upper end, unless it is open or blank. -/
def upper? (range : TimeRange) : Option TimeBound :=
  range.max.filter (!·.isBlank)

end TimeRange

/-- A rectangle of latitudes and longitudes. -/
structure GeoBox where
  latMin : Float
  longMin : Float
  latMax : Float
  longMax : Float

namespace GeoBox

def isLatitude (value : Float) : Bool :=
  -90.0 ≤ value && value ≤ 90.0

def isLongitude (value : Float) : Bool :=
  -180.0 ≤ value && value ≤ 180.0

/-- Why a box is not usable, if it is not. -/
def fault? (box : GeoBox) : Option String :=
  if !([box.latMin, box.longMin, box.latMax, box.longMax].all Float.isFinite) then
    some "coordinates must be finite numbers"
  else if !(isLatitude box.latMin && isLatitude box.latMax) then
    some "latitudes must lie between -90 and 90"
  else if !(isLongitude box.longMin && isLongitude box.longMax) then
    some "longitudes must lie between -180 and 180"
  else if box.latMin > box.latMax || box.longMin > box.longMax then
    some "the minimum corner lies beyond the maximum corner"
  else none

end GeoBox

/-- The value of a constraint. -/
inductive ConstraintValue where
  | uris (items : List String)
  | text (content : String)
  | timespan (range : TimeRange)
  | box (corners : GeoBox)

namespace ConstraintValue

def kind : ConstraintValue → FilterKind
  | .uris _ => .uri
  | .text _ => .text
  | .timespan _ => .timespan
  | .box _ => .spatial

/-- Whether the value restricts nothing. -/
def isBlank : ConstraintValue → Bool
  | .uris items => items.all Text.blank
  | .text content => Text.blank content
  | .timespan range => range.lower?.isNone && range.upper?.isNone
  | .box _ => false

end ConstraintValue

/-- A constraint on one facet. -/
structure Constraint where
  value : ConstraintValue
  /-- Whether everything below the selected concepts is selected too. -/
  withSubconcepts : Bool

namespace Constraint

def kind (constraint : Constraint) : FilterKind :=
  constraint.value.kind

def isBlank (constraint : Constraint) : Bool :=
  constraint.value.isBlank

end Constraint

/-- Constraints by the ids of their facets, in ascending order of the ids and one for each. -/
structure ConstraintSet where
  entries : List (String × Constraint)
  ordered : entries.Pairwise fun left right => left.1 < right.1

namespace ConstraintSet

def empty : ConstraintSet :=
  ⟨[], .nil⟩

/-- Puts an entry at its place; an entry with the same id gives way. -/
def place (facet : String) (constraint : Constraint) :
    List (String × Constraint) → List (String × Constraint)
  | [] => [(facet, constraint)]
  | entry :: rest =>
    if entry.1 < facet then entry :: place facet constraint rest
    else if entry.1 = facet then (facet, constraint) :: rest
    else (facet, constraint) :: entry :: rest

theorem mem_place {facet : String} {constraint : Constraint} {member : String × Constraint} :
    {entries : List (String × Constraint)} → member ∈ place facet constraint entries →
      member = (facet, constraint) ∨ member ∈ entries
  | [], found => by simpa [place] using found
  | entry :: rest, found => by
    simp only [place] at found
    split at found
    · cases List.mem_cons.1 found with
      | inl same => exact .inr (same ▸ List.mem_cons_self)
      | inr inRest =>
        cases mem_place inRest with
        | inl same => exact .inl same
        | inr old => exact .inr (List.mem_cons_of_mem _ old)
    · split at found
      · cases List.mem_cons.1 found with
        | inl same => exact .inl same
        | inr old => exact .inr (List.mem_cons_of_mem _ old)
      · cases List.mem_cons.1 found with
        | inl same => exact .inl same
        | inr old => exact .inr old

theorem pairwise_place (facet : String) (constraint : Constraint) :
    (entries : List (String × Constraint)) →
      entries.Pairwise (fun left right => left.1 < right.1) →
      (place facet constraint entries).Pairwise fun left right => left.1 < right.1
  | [], _ => by simp [place]
  | entry :: rest, ordered => by
    have below := (List.pairwise_cons.1 ordered).1
    have tail := (List.pairwise_cons.1 ordered).2
    simp only [place]
    split
    · next smaller =>
      refine List.pairwise_cons.2 ⟨?_, pairwise_place facet constraint rest tail⟩
      intro member found
      cases mem_place found with
      | inl same => exact same ▸ smaller
      | inr old => exact below member old
    · next notSmaller =>
      split
      · next same =>
        refine List.pairwise_cons.2 ⟨?_, tail⟩
        intro member found
        exact same ▸ below member found
      · next different =>
        have greater : facet < entry.1 :=
          Std.lt_of_le_of_ne (String.not_lt.1 notSmaller) (Ne.symm different)
        refine List.pairwise_cons.2 ⟨?_, ordered⟩
        intro member found
        cases List.mem_cons.1 found with
        | inl same => exact same ▸ greater
        | inr old => exact String.lt_trans greater (below member old)

/-- Adds a constraint on a facet in place of an earlier one. -/
def insert (set : ConstraintSet) (facet : String) (constraint : Constraint) : ConstraintSet :=
  ⟨place facet constraint set.entries, pairwise_place facet constraint set.entries set.ordered⟩

/-- The set of a list of constraints, of which the last one on a facet counts. -/
def ofList (entries : List (String × Constraint)) : ConstraintSet :=
  entries.foldl (fun set entry => set.insert entry.1 entry.2) empty

/-- The constraint on a facet, blank or not. -/
def get? (set : ConstraintSet) (facet : String) : Option Constraint :=
  (set.entries.find? (·.1 == facet)).map (·.2)

/-- The constraints that restrict the result. -/
def active (set : ConstraintSet) : List (String × Constraint) :=
  set.entries.filter (!·.2.isBlank)

/-- Whether no constraint restricts the result. -/
def isBlank (set : ConstraintSet) : Bool :=
  set.active.isEmpty

end ConstraintSet

end FacetedQuery
