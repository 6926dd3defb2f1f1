import FacetedQuery.Rdf.Term
import FacetedQuery.Text.Brace

/-!
# Clauses

Trees of the patterns and filters that constraints become.  What a user gave enters a query only
as an IRI or a literal, which are escaped when the tree is rendered; property paths come from the
portal and are taken as they stand.
-/

namespace FacetedQuery.Clause

open Rdf (Iri Literal Variable)

/-- A property path as the portal writes it. -/
structure PropertyPath where
  text : String
deriving DecidableEq

/-- The path that repeats another any number of times. -/
def PropertyPath.zeroOrMore (path : PropertyPath) : PropertyPath :=
  ⟨"(" ++ path.text ++ ")*"⟩

/-- The subject or the object of a triple. -/
inductive Node where
  | var (target : Variable)
  | iri (value : Iri)
deriving DecidableEq

def Node.render : Node → String
  | .var target => target.render
  | .iri value => value.render

/-- The functions that filters call by name. -/
inductive Builtin where
  | str
  | lcase
  | contains
  | coalesce
deriving DecidableEq

def Builtin.name : Builtin → String
  | .str => "STR"
  | .lcase => "LCASE"
  | .contains => "CONTAINS"
  | .coalesce => "COALESCE"

/-- An expression of a filter. -/
inductive Expression where
  | var (target : Variable)
  | iri (value : Iri)
  | literal (value : Literal)
  | member (value : Expression) (list : List Expression)
  | conjunction (left right : Expression)
  | atLeast (left right : Expression)
  | atMost (left right : Expression)
  | bound (target : Variable)
  | call (function : Builtin) (arguments : List Expression)
  /-- A call of the datatype that the value is converted to. -/
  | cast (datatype : Iri) (value : Expression)

namespace Expression

/-- Conjoins expressions from left to right, if there are any. -/
def all? : List Expression → Option Expression
  | [] => none
  | first :: rest => some (rest.foldl conjunction first)

mutual

def render : Expression → String
  | .var target => target.render
  | .iri value => value.render
  | .literal value => value.render
  | .member value list => value.render ++ " IN (" ++ renderList list ++ ")"
  | .conjunction left right => "(" ++ left.render ++ " && " ++ right.render ++ ")"
  | .atLeast left right => "(" ++ left.render ++ " >= " ++ right.render ++ ")"
  | .atMost left right => "(" ++ left.render ++ " <= " ++ right.render ++ ")"
  | .bound target => "BOUND(" ++ target.render ++ ")"
  | .call function arguments => function.name ++ "(" ++ renderList arguments ++ ")"
  | .cast datatype value => datatype.render ++ "(" ++ value.render ++ ")"

/-- Expressions with commas between them. -/
def renderList : List Expression → String
  | [] => ""
  | [expression] => expression.render
  | expression :: rest => expression.render ++ ", " ++ renderList rest

end

end Expression

/-- An element of a group. -/
inductive Pattern where
  | triple (subject : Node) (path : PropertyPath) (object : Node)
  | values (target : Variable) (items : List Iri)
  | optional (elements : List Pattern)
  | filter (condition : Expression)

namespace Pattern

mutual

def render : Pattern → String
  | .triple subject path object =>
    subject.render ++ " " ++ path.text ++ " " ++ object.render ++ " ."
  | .values target items =>
    "VALUES " ++ target.render ++ " " ++ Text.braced (Text.join " " (items.map Iri.render))
  | .optional elements => "OPTIONAL " ++ Text.braced (renderList elements)
  | .filter condition => "FILTER(" ++ condition.render ++ ")"

/-- Elements with blanks between them. -/
def renderList : List Pattern → String
  | [] => ""
  | [element] => element.render
  | element :: rest => element.render ++ " " ++ renderList rest

end

/-- A triple from one variable to another. -/
def link (subject : Variable) (path : String) (object : Variable) : Pattern :=
  .triple (.var subject) ⟨path⟩ (.var object)

end Pattern

end FacetedQuery.Clause
