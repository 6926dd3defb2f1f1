import FacetedQuery.Record
import FacetedQuery.Results.Column

/-!
# Objects

Rows as objects.  The rows with one id make one object.  A column whose name consists of several
names, joined by two underscores, is a property of a nested object.
-/

namespace FacetedQuery

/-- The names of which the name of a column consists. -/
def namesOfColumn : List Char → List (List Char)
  | [] => [[]]
  | '_' :: '_' :: rest => [] :: namesOfColumn rest
  | character :: rest =>
    match namesOfColumn rest with
    | [] => [[character]]
    | name :: names => (character :: name) :: names

/-- The columns of one row by their names: those that end here, and those that go on. -/
inductive ColumnTree where
  | node (fields : List (String × String)) (branches : List (String × ColumnTree))

namespace ColumnTree

def empty : ColumnTree :=
  .node [] []

/-- Changes the branch of a name, or adds one. -/
def atBranch (name : String) (change : ColumnTree → ColumnTree) :
    List (String × ColumnTree) → List (String × ColumnTree)
  | [] => [(name, change empty)]
  | (found, tree) :: rest =>
    if found == name then (found, change tree) :: rest
    else (found, tree) :: atBranch name change rest

/-- Adds the value of a column by its names. -/
def insert : List String → String → ColumnTree → ColumnTree
  | [], _, tree => tree
  | [name], value, .node fields branches => .node (fields ++ [(name, value)]) branches
  | name :: second :: rest, value, .node fields branches =>
    .node fields (atBranch name (insert (second :: rest) value) branches)

/-- The tree of the columns of a row. -/
def ofColumns (columns : List (String × String)) : ColumnTree :=
  columns.foldl (fun tree column =>
    insert ((namesOfColumn column.1.toList).map String.ofList) column.2 tree) empty

mutual

/-- The record of a tree: its own fields first, then its branches. -/
def toRecord : ColumnTree → Record
  | .node fields branches =>
    pushBranches (fields.foldl (fun record field => record.push field.1 (.term field.2)) .empty)
      branches

def pushBranches (record : Record) : List (String × ColumnTree) → Record
  | [] => record
  | (name, tree) :: rest => pushBranches (record.push name (.record tree.toRecord)) rest

end

end ColumnTree

/-- The object of one row, whose columns of the given names are left out. -/
def rowRecord (skipped : List String) (row : Solution) : Record :=
  let columns := row.bound.filter fun column => !skipped.contains column.1
  (ColumnTree.ofColumns (columns.map fun column => (column.1, column.2.value))).toRecord

/-- Merges a record into the object with its id, or adds it. -/
def addObject (id : String) (record : Record) : List Record → List Record
  | [] => [record]
  | object :: rest =>
    if object.id? == some id then object.merge record :: rest
    else object :: addObject id record rest

/-- Takes one more row, which has to have an id. -/
def takeRow (skipped : List String) (objects : List Record) (row : Solution × Nat) :
    Except MappingFault (List Record) :=
  let record := rowRecord skipped row.1
  match record.id? with
  | some id => .ok (addObject id record objects)
  | none => .error (.missingColumn "id" row.2)

/-- The objects of rows in the order in which their ids appear first. -/
def objectsWithout (skipped : List String) (rows : List Solution) :
    Except MappingFault (List Record) :=
  rows.zipIdx.foldlM (takeRow skipped) []

def readObjects (rows : List Solution) : Except MappingFault (List Record) :=
  objectsWithout [] rows

/-- The column that pages are sorted by. -/
def sortColumn : String :=
  "orderBy"

/-- The objects of a page. -/
def readPage (rows : List Solution) : Except MappingFault (List Record) :=
  objectsWithout [sortColumn] rows

end FacetedQuery
