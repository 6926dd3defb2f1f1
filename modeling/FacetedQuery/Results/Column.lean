import FacetedQuery.Decimal.Reading
import FacetedQuery.Fault
import FacetedQuery.Solution

/-!
# Columns of rows

Reading the columns of a row as texts and as numbers.  Faults name the column and the index of
the row.
-/

namespace FacetedQuery

/-- A kind of numbers that a column may hold. -/
structure NumberKind (α : Type) where
  /-- What a fault calls such a number. -/
  name : String
  read? : List Char → Option α

namespace NumberKind

/-- Unsigned integers of 64 bits. -/
def count : NumberKind Nat :=
  ⟨"non-negative integer", Decimal.readUnsigned?⟩

def degrees : NumberKind Float :=
  ⟨"decimal degrees", Decimal.readFloat?⟩

end NumberKind

namespace Solution

/-- A column that has to hold a term. -/
def text (row : Solution) (index : Nat) (column : String) : Except MappingFault String :=
  match row.text? column with
  | some value => .ok value
  | none => .error (.missingColumn column index)

/-- A column that holds a number if it holds a term. -/
def number? (row : Solution) (index : Nat) (kind : NumberKind α) (column : String) :
    Except MappingFault (Option α) :=
  match row.text? column with
  | none => .ok none
  | some value =>
    match kind.read? (Text.trim value).toList with
    | some number => .ok (some number)
    | none => .error (.invalidValue column index value kind.name)

/-- A column that has to hold a number. -/
def number (row : Solution) (index : Nat) (kind : NumberKind α) (column : String) :
    Except MappingFault α := do
  match ← row.number? index kind column with
  | some number => return number
  | none => .error (.missingColumn column index)

end Solution

/-- Reads every row with its index. -/
def mapRows (read : Solution → Nat → Except MappingFault α) (rows : List Solution) :
    Except MappingFault (List α) :=
  rows.zipIdx.mapM fun row => read row.1 row.2

/-- The count in the first row. -/
def readCount (rows : List Solution) : Except MappingFault Nat :=
  match rows with
  | [] => .error .emptyResult
  | row :: _ => row.number 0 .count "count"

end FacetedQuery
