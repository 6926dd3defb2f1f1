import FacetedQuery.Sparql.Grammar.Expression
import FacetedQuery.Sparql.Scope

/-!
# Grammar of groups

Patterns in braces and the queries that may stand in their place.  A group or a query that breaks
the rules of scope is not read.
-/

namespace FacetedQuery.Sparql.Grammar

open Reader

/-- Reads a value of inline data. -/
def dataValue : Reader Unit :=
  (do let _ ← resource) <|> (do let _ ← literalForm) <|> word "UNDEF"

/-- Reads an item in braces. -/
def braced (item : Reader α) : Reader α := do
  mark .openBrace
  let content ← item
  mark .closeBrace
  return content

/-- Reads inline data, whose rows are as wide as the list of variables. -/
def inlineData : Reader InlineData :=
  (do
    let name ← variableName
    let rows ← braced (many dataValue)
    return ⟨[name], rows.map fun _ => 1⟩) <|>
  (do
    let names ← parenthesised (many variableName)
    let rows ← braced (many (parenthesised (many dataValue)))
    if rows.all (·.length == names.length) then
      return ⟨names, rows.map List.length⟩
    else failure)

def target : Reader Target :=
  (.var <$> variableName) <|> (.resource <$> resource)

/-- Reads an expression that is bound to a variable, in parentheses. -/
def assignment (readers : Readers) : Reader (Expression × String) :=
  parenthesised do
    let value ← readers.expression
    word "AS"
    let name ← variableName
    return (value, name)

/-- Reads an element that is no triple. -/
def patternElement (readers : Readers) : Reader Element :=
  (do word "OPTIONAL"; .optional <$> readers.group) <|>
  (do word "MINUS"; .minus <$> readers.group) <|>
  (.union <$> separated (word "UNION") readers.group) <|>
  (do
    word "GRAPH"
    let name ← target
    .graph name <$> readers.group) <|>
  (do
    word "SERVICE"
    let _ ← taken (word "SILENT")
    let name ← target
    .service name <$> readers.group) <|>
  (do word "FILTER"; .filter <$> constraint readers) <|>
  (do
    word "BIND"
    let bound ← assignment readers
    return .bind bound.1 bound.2) <|>
  (do word "VALUES"; .values <$> inlineData)

/-- Reads triples, if there are any. -/
def someTriples : Reader (List Element) :=
  (do return [.triples (← block pathVerb)]) <|> pure []

/-- Reads the elements of a group. -/
def elements (readers : Readers) : Reader (List Element) := do
  let first ← someTriples
  let rest ← many do
    let element ← patternElement readers
    let _ ← taken (mark .dot)
    let after ← someTriples
    return element :: after
  return first ++ rest.flatten

/-- Reads a condition by which solutions are grouped. -/
def grouping (readers : Readers) : Reader Grouping :=
  (do
    let bound ← assignment readers
    return .by bound.1 (some bound.2)) <|>
  (do return .by (← constraint readers) none) <|>
  (do return .by (.var (← variableName)) none)

/-- Reads a condition by which solutions are sorted. -/
def ordering (readers : Readers) : Reader Expression :=
  (do
    word "ASC" <|> word "DESC"
    parenthesised readers.expression) <|>
  constraint readers <|>
  (.var <$> variableName)

/-- Reads a limit and an offset in either order. -/
def slice : Reader Unit :=
  (do
    limit
    let _ ← taken offset) <|>
  (do
    offset
    let _ ← taken limit) <|>
  pure ()
where
  limit : Reader Unit := do
    word "LIMIT"
    let _ ← count
  offset : Reader Unit := do
    word "OFFSET"
    let _ ← count

/-- Reads a list of conditions behind its keyword, if it is there. -/
def clause (keyword : Reader Unit) (item : Reader α) : Reader (List α) :=
  (do keyword; several item) <|> pure []

/-- Reads what follows the body of a query. -/
def modifiers (readers : Readers) : Reader Modifiers := do
  let groups ← clause (do word "GROUP"; word "BY") (grouping readers)
  let having ← clause (word "HAVING") (constraint readers)
  let order ← clause (do word "ORDER"; word "BY") (ordering readers)
  slice
  let values ← maybe (do word "VALUES"; inlineData)
  return .after groups having order values.toList

/-- Reads the body of a query. -/
def body (readers : Readers) : Reader Group := do
  let _ ← taken (word "WHERE")
  readers.group

def column (readers : Readers) : Reader Column :=
  (.var <$> variableName) <|>
  (do
    let bound ← assignment readers
    return .computed bound.1 bound.2)

/-- Reads a query for solutions; `sources` reads what stands before its body. -/
def select (readers : Readers) (sources : Reader Unit) : Reader Select := do
  word "SELECT"
  let _ ← taken (word "DISTINCT" <|> word "REDUCED")
  let columns ← (do mark .star; return none) <|> (some <$> several (column readers))
  sources
  let inside ← body readers
  let after ← modifiers readers
  let query := match columns with
    | none => Select.all inside after
    | some list => .columns list inside after
  if query.isSound then return query else failure

/-- Reads a group, given readers of what stands inside of it. -/
def groupWith (readers : Readers) : Reader Group :=
  braced ((.query <$> select readers (pure ())) <|>
    (do
      let list ← elements readers
      if elementsAreSound list then return .elements list else failure))

/-- Readers of expressions and groups that are nested at most as deep as given. -/
def readersWithin : Nat → Readers
  | 0 => ⟨failure, failure⟩
  | depth + 1 =>
    let inner := readersWithin depth
    ⟨expressionWith inner, groupWith inner⟩

end FacetedQuery.Sparql.Grammar
