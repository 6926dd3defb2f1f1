import FacetedQuery.Rdf.Term

/-!
# Solutions

The rows that an endpoint returns: a term, or nothing, for every column.
-/

namespace FacetedQuery

open Rdf (Term)

/-- A row by its columns in order. -/
structure Solution where
  columns : List (String × Option Term)
deriving DecidableEq

namespace Solution

/-- The term of a column; of two columns with one name the first one counts. -/
def get? (solution : Solution) (column : String) : Option Term :=
  ((solution.columns.find? (·.1 == column)).map (·.2)).join

/-- The columns that hold a term. -/
def bound (solution : Solution) : List (String × Term) :=
  solution.columns.filterMap fun column => column.2.map (column.1, ·)

/-- The lexical value of a column. -/
def text? (solution : Solution) (column : String) : Option String :=
  (solution.get? column).map Term.value

end Solution

end FacetedQuery
