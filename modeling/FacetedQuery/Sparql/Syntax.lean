import FacetedQuery.Sparql.Token

/-!
# Syntax of SPARQL queries

The trees that queries denote, as far as their validity depends on it.  Brackets around paths and
expressions leave no trace.
-/

namespace FacetedQuery.Sparql

/-- The name of a property: a resource, or the word `a` for the type. -/
inductive PropertyName where
  | resource (name : IriName)
  | type
deriving DecidableEq

/-- A member of a negated set of properties. -/
structure ExcludedProperty where
  inverse : Bool
  property : PropertyName
deriving DecidableEq

inductive PathModifier where
  | zeroOrMore
  | oneOrMore
  | zeroOrOne
deriving DecidableEq

inductive Path where
  | property (name : PropertyName)
  | negated (members : List ExcludedProperty)
  | inverse (path : Path)
  | modified (path : Path) (modifier : PathModifier)
  | sequence (first second : Path)
  | alternative (first second : Path)
deriving DecidableEq

/-- What stands between a subject and its objects. -/
inductive Verb where
  | var (name : String)
  | path (path : Path)
deriving DecidableEq

/-- A literal as it is written. -/
inductive LiteralForm where
  | plain (text : String)
  | tagged (text tag : String)
  | typed (text : String) (datatype : IriName)
  | number (sign : NumberSign) (digits : String)
  | boolean (value : Bool)
deriving DecidableEq

mutual

/-- A subject or an object. -/
inductive Node where
  | var (name : String)
  | resource (name : IriName)
  | literal (value : LiteralForm)
  | blank (label : String)
  | anonymous
  | collection (items : List Node)
  /-- A node that is given by what is stated about it. -/
  | described (statements : List Statement)

/-- A verb with its objects. -/
inductive Statement where
  | about (verb : Verb) (objects : List Node)

end

/-- A subject with what is stated about it. -/
structure Triples where
  subject : Node
  statements : List Statement

inductive UnaryOperator where
  | not
  | plus
  | minus
deriving DecidableEq

inductive BinaryOperator where
  | or
  | and
  | equal
  | notEqual
  | less
  | lessEqual
  | greater
  | greaterEqual
  | add
  | subtract
  | multiply
  | divide
deriving DecidableEq

/-- A function that is called: one of the language, by its name in capital letters, or a
resource. -/
inductive Callee where
  | builtin (name : String)
  | resource (name : IriName)
deriving DecidableEq

/-- A graph or an endpoint that a group is asked of. -/
inductive Target where
  | var (name : String)
  | resource (name : IriName)
deriving DecidableEq

/-- The rows of inline data, without their values. -/
structure InlineData where
  names : List String
  widths : List Nat
deriving DecidableEq

mutual

inductive Expression where
  | var (name : String)
  | resource (name : IriName)
  | literal (value : LiteralForm)
  | unary (operator : UnaryOperator) (operand : Expression)
  | binary (operator : BinaryOperator) (left right : Expression)
  | member (negated : Bool) (value : Expression) (list : List Expression)
  | call (function : Callee) (arguments : List Expression)
  | bound (name : String)
  | exist (negated : Bool) (group : Group)
  /-- An aggregate over the solutions of a group; without argument it counts them. -/
  | aggregate (function : Callee) (distinct : Bool) (arguments : List Expression)

/-- What stands between braces. -/
inductive Group where
  | elements (list : List Element)
  | query (select : Select)

inductive Element where
  | triples (block : List Triples)
  | filter (condition : Expression)
  | bind (value : Expression) (target : String)
  | values (data : InlineData)
  | optional (group : Group)
  | minus (group : Group)
  | union (groups : List Group)
  | graph (target : Target) (group : Group)
  | service (target : Target) (group : Group)

/-- The columns of a query and its body with what follows it. -/
inductive Select where
  | all (body : Group) (modifiers : Modifiers)
  | columns (list : List Column) (body : Group) (modifiers : Modifiers)

inductive Column where
  | var (name : String)
  | computed (value : Expression) (name : String)

/-- What follows the body of a query. -/
inductive Modifiers where
  | after (grouping : List Grouping) (having order : List Expression) (values : List InlineData)

/-- What solutions are grouped by. -/
inductive Grouping where
  | by (value : Expression) (name : Option String)

end

end FacetedQuery.Sparql
