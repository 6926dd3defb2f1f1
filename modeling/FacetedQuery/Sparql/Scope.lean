import FacetedQuery.Sparql.Syntax

/-!
# Scope of variables

Which variables a group binds for what stands outside of it, and the rules that its parts and the
columns of a query have to obey: nothing is bound twice, and a column of grouped solutions is one
of the variables that they are grouped by or made from aggregates.
-/

namespace FacetedQuery.Sparql

namespace Node

mutual

/-- The variables of a subject or object. -/
def scope : Node → List String
  | .var name => [name]
  | .resource _ => []
  | .literal _ => []
  | .blank _ => []
  | .anonymous => []
  | .collection items => scopeOfList items
  | .described statements => scopeOfStatements statements

def scopeOfList : List Node → List String
  | [] => []
  | node :: nodes => node.scope ++ scopeOfList nodes

def scopeOfStatement : Statement → List String
  | .about (.var name) objects => name :: scopeOfList objects
  | .about (.path _) objects => scopeOfList objects

def scopeOfStatements : List Statement → List String
  | [] => []
  | statement :: statements =>
    scopeOfStatement statement ++ scopeOfStatements statements

end

end Node

def Triples.scope (triples : Triples) : List String :=
  triples.subject.scope ++ Node.scopeOfStatements triples.statements

def Target.scope : Target → List String
  | .var name => [name]
  | .resource _ => []

def Column.target : Column → String
  | .var name => name
  | .computed _ name => name

def Modifiers.values : Modifiers → List InlineData
  | .after _ _ _ values => values

mutual

/-- The variables that a group binds. -/
def Group.scope : Group → List String
  | .elements list => scopeOfElements list
  | .query select => select.scope

def scopeOfElements : List Element → List String
  | [] => []
  | element :: elements => element.scope ++ scopeOfElements elements

def scopeOfGroups : List Group → List String
  | [] => []
  | group :: groups => group.scope ++ scopeOfGroups groups

/-- The variables that an element adds to its group. -/
def Element.scope : Element → List String
  | .triples block => block.flatMap Triples.scope
  | .filter _ => []
  | .bind _ target => [target]
  | .values data => data.names
  | .optional group => group.scope
  | .minus _ => []
  | .union groups => scopeOfGroups groups
  | .graph target group => target.scope ++ group.scope
  | .service target group => target.scope ++ group.scope

/-- The variables that a query has as columns. -/
def Select.scope : Select → List String
  | .all body modifiers => body.scope ++ modifiers.values.flatMap InlineData.names
  | .columns list _ _ => list.map Column.target

end

mutual

/-- Whether an expression holds an aggregate. -/
def Expression.isAggregated : Expression → Bool
  | .var _ => false
  | .resource _ => false
  | .literal _ => false
  | .unary _ operand => operand.isAggregated
  | .binary _ left right => left.isAggregated || right.isAggregated
  | .member _ value list => value.isAggregated || anyAggregated list
  | .call _ arguments => anyAggregated arguments
  | .bound _ => false
  | .exist _ _ => false
  | .aggregate _ _ _ => true

def anyAggregated : List Expression → Bool
  | [] => false
  | expression :: expressions => expression.isAggregated || anyAggregated expressions

end

mutual

/-- Whether the value of an expression depends on bindings of the given variables and on aggregates
alone, as far as it needs them. -/
def Expression.isBoundBy (visible : List String) : Expression → Bool
  | .var name => visible.contains name
  | .resource _ => true
  | .literal _ => true
  | .unary _ operand => operand.isBoundBy visible
  | .binary _ left right => left.isBoundBy visible && right.isBoundBy visible
  | .member _ value list => value.isBoundBy visible && allBoundBy visible list
  | .call (.builtin "COALESCE") _ => true
  | .call _ arguments => allBoundBy visible arguments
  | .bound _ => true
  | .exist _ _ => true
  | .aggregate _ _ _ => true

def allBoundBy (visible : List String) : List Expression → Bool
  | [] => true
  | expression :: expressions => expression.isBoundBy visible && allBoundBy visible expressions

end

/-- Whether no element binds a variable that those before it have bound. -/
def bindsFresh (bound : List String) : List Element → Bool
  | [] => true
  | element :: elements =>
    (match element with
      | .bind _ target => !bound.contains target
      | _ => true) && bindsFresh (bound ++ element.scope) elements

/-- Whether filters and assignments of a group hold no aggregate. -/
def Element.isPlain : Element → Bool
  | .filter condition => !condition.isAggregated
  | .bind value _ => !value.isAggregated
  | _ => true

/-- The variable that a condition of the grouping leaves visible, if it has a name. -/
def Grouping.visible : Grouping → List String
  | .by (.var name) _ => [name]
  | .by _ (some name) => [name]
  | .by _ none => []

def Grouping.isPlain : Grouping → Bool
  | .by value _ => !value.isAggregated

def Column.isAggregated : Column → Bool
  | .var _ => false
  | .computed value _ => value.isAggregated

namespace Modifiers

/-- Whether only those conditions that come after grouping hold aggregates. -/
def isPlain : Modifiers → Bool
  | .after grouping _ _ _ => grouping.all Grouping.isPlain

def isAggregated : Modifiers → Bool
  | .after _ having order _ => anyAggregated having || anyAggregated order

def isGrouped : Modifiers → Bool
  | .after grouping _ _ _ => !grouping.isEmpty

/-- The variables that grouping leaves visible. -/
def visible : Modifiers → List String
  | .after grouping _ _ _ => grouping.flatMap Grouping.visible

end Modifiers

/-- Whether a column may stand beside the visible variables. -/
def Column.isSound (visible : List String) (grouped : Bool) : Column → Bool
  | .var name => !grouped || visible.contains name
  | .computed value name =>
    !visible.contains name && (!grouped || value.isBoundBy visible)

/-- Whether names are pairwise distinct. -/
def areDistinct : List String → Bool
  | [] => true
  | name :: names => !names.contains name && areDistinct names

/-- Whether the columns of a query obey the rules of scope. -/
def columnsAreSound (list : List Column) (body : Group) (modifiers : Modifiers) : Bool :=
  let grouped := modifiers.isGrouped || modifiers.isAggregated || list.any Column.isAggregated
  let visible := (if grouped then modifiers.visible else body.scope) ++
    modifiers.values.flatMap InlineData.names
  list.all (Column.isSound visible grouped) && areDistinct (list.map Column.target)

/-- Whether a query obeys the rules of scope, its body apart. -/
def Select.isSound : Select → Bool
  | .all _ modifiers => modifiers.isPlain && !modifiers.isGrouped && !modifiers.isAggregated
  | .columns list body modifiers => modifiers.isPlain && columnsAreSound list body modifiers

/-- Whether the elements of a group obey the rules of scope, what they are made of apart. -/
def elementsAreSound (elements : List Element) : Bool :=
  elements.all Element.isPlain && bindsFresh [] elements

end FacetedQuery.Sparql
