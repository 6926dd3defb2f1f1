import FacetedQuery.Sparql.Builtin
import FacetedQuery.Sparql.Grammar.Triples

/-!
# Grammar of expressions

Operators bind, from the loosest: disjunction, conjunction, comparison, sums, products, signs and
negation.  Comparisons do not associate.
-/

namespace FacetedQuery.Sparql.Grammar

open Reader

/-- Readers of what expressions and groups hold in brackets and braces. -/
structure Readers where
  expression : Reader Expression
  group : Reader Group

/-- Reads an operator from a list of marks. -/
def operator (marks : List (Mark × BinaryOperator)) : Reader BinaryOperator :=
  token fun
    | .mark found => (marks.find? (·.1 = found)).map (·.2)
    | _ => none

def comparison : Reader BinaryOperator :=
  operator [(.equal, .equal), (.bangEqual, .notEqual), (.less, .less), (.lessEqual, .lessEqual),
    (.greater, .greater), (.greaterEqual, .greaterEqual)]

/-- Reads the arguments of a function that is a resource. -/
def resourceCall (readers : Readers) (name : IriName) : Reader Expression :=
  (parenthesised do
    word "DISTINCT"
    let argument ← readers.expression
    return .aggregate (.resource name) true [argument]) <|>
  (.call (.resource name) <$> listed readers.expression)

/-- Reads what follows the name of an aggregate. -/
def aggregateCall (readers : Readers) (name : String) : Reader Expression :=
  parenthesised do
    let distinct ← taken (word "DISTINCT")
    let all ← if name = "COUNT" then taken (mark .star) else pure false
    if all then
      return .aggregate (.builtin name) distinct []
    else
      let argument ← readers.expression
      if name = "GROUP_CONCAT" then
        let _ ← maybe do
          mark .semicolon
          word "SEPARATOR"
          mark .equal
          text
      return .aggregate (.builtin name) distinct [argument]

/-- Reads a call of a function of the language. -/
def builtinCall (readers : Readers) : Reader Expression :=
  (do
    word "EXISTS"
    .exist false <$> readers.group) <|>
  (do
    word "NOT"
    word "EXISTS"
    .exist true <$> readers.group) <|>
  (do
    word "BOUND"
    .bound <$> parenthesised variableName) <|>
  (do
    let letters ← token fun
      | .word letters => some letters
      | _ => none
    let name := capitals letters
    if isAggregateName name then aggregateCall readers name
    else
      match arity? name with
      | none => failure
      | some arity =>
        let arguments ← listed readers.expression
        if arity.allows arguments.length then return .call (.builtin name) arguments else failure)

/-- Reads a call of a function that is a resource. -/
def functionCall (readers : Readers) : Reader Expression := do
  let name ← resource
  resourceCall readers name

def primary (readers : Readers) : Reader Expression :=
  parenthesised readers.expression <|>
  (do
    let name ← resource
    resourceCall readers name <|> pure (.resource name)) <|>
  (.var <$> variableName) <|>
  (.literal <$> literalForm) <|>
  builtinCall readers

def unaryOperator : Reader UnaryOperator :=
  (do mark .bang; return .not) <|>
  (do mark .plus; return .plus) <|>
  (do mark .minus; return .minus)

def unary (readers : Readers) : Reader Expression := do
  let sign ← maybe unaryOperator
  let operand ← primary readers
  return match sign with
    | none => operand
    | some sign => .unary sign operand

/-- Reads the further factors of a product. -/
def factors (readers : Readers) (first : Expression) : Reader Expression := do
  let rest ← many do
    let sign ← operator [(.star, .multiply), (.slash, .divide)]
    let factor ← unary readers
    return (sign, factor)
  return rest.foldl (fun product factor => .binary factor.1 product factor.2) first

def product (readers : Readers) : Reader Expression := do
  let first ← unary readers
  factors readers first

/-- Reads a number whose sign joins it to the sum before it. -/
def signedNumber : Reader Expression :=
  token fun
    | .number .none _ => none
    | .number sign digits => some (.literal (.number sign digits))
    | _ => none

def sum (readers : Readers) : Reader Expression := do
  let first ← product readers
  let rest ← many ((do
      let sign ← operator [(.plus, .add), (.minus, .subtract)]
      let term ← product readers
      return (sign, term)) <|>
    (do
      let number ← signedNumber
      let term ← factors readers number
      return (.add, term)))
  return rest.foldl (fun total term => .binary term.1 total term.2) first

def relation (readers : Readers) : Reader Expression := do
  let left ← sum readers
  (do
    let sign ← comparison
    let right ← sum readers
    return .binary sign left right) <|>
  (do
    word "IN"
    .member false left <$> listed readers.expression) <|>
  (do
    word "NOT"
    word "IN"
    .member true left <$> listed readers.expression) <|>
  pure left

/-- Reads an expression, given readers of what stands in brackets and braces. -/
def expressionWith (readers : Readers) : Reader Expression :=
  chain (mark .doubleBar) (.binary .or) (chain (mark .doubleAnd) (.binary .and) (relation readers))

/-- Reads a condition: an expression in parentheses or a call. -/
def constraint (readers : Readers) : Reader Expression :=
  parenthesised readers.expression <|> functionCall readers <|> builtinCall readers

end FacetedQuery.Sparql.Grammar
