import FacetedQuery.Sparql.Grammar.Group
import FacetedQuery.Sparql.Label
import FacetedQuery.Sparql.Prologue

/-!
# Valid queries

A text is a valid query if its tokens form a query for solutions, for a graph, for a description
or for an answer of yes or no, if its names mean something, and if it keeps the rules of scope.
-/

namespace FacetedQuery.Sparql

/-- The forms of queries. -/
inductive Query where
  | select (query : Select)
  | construct (template : List Triples) (body : Option Group) (modifiers : Modifiers)
  | describe (columns : List Column) (body : Option Group) (modifiers : Modifiers)
  | ask (body : Group) (modifiers : Modifiers)

/-- Whether nothing is aggregated behind the body of a query without columns. -/
def Modifiers.suitNoColumns (modifiers : Modifiers) : Bool :=
  modifiers.isPlain && !modifiers.isAggregated

/-- Whether the parts of a query fit together, what they are made of apart. -/
def Query.isSound : Query → Bool
  | .select _ => true
  | .construct _ _ modifiers => modifiers.suitNoColumns
  | .describe columns body modifiers =>
    modifiers.suitNoColumns && columnsAreSound columns (body.getD (.elements [])) modifiers
  | .ask _ modifiers => modifiers.suitNoColumns

namespace Grammar

open Reader

/-- Reads the graphs that a query is asked of. -/
def sources : Reader Unit := do
  let _ ← many do
    word "FROM"
    let _ ← taken (word "NAMED")
    resource

/-- Reads the triples of a template, in braces. -/
def template : Reader (List Triples) :=
  braced (block simpleVerb <|> pure [])

def construct (readers : Readers) : Reader Query :=
  (do
    word "CONSTRUCT"
    let triples ← template
    sources
    let inside ← body readers
    let after ← modifiers readers
    return .construct triples (some inside) after) <|>
  (do
    word "CONSTRUCT"
    sources
    word "WHERE"
    let triples ← template
    let after ← modifiers readers
    return .construct triples none after)

/-- Reads what a description is about; a resource is no column. -/
def described : Reader (List Column) :=
  (do
    let name ← variableName
    return [.var name]) <|>
  (do
    let _ ← resource
    return [])

def describe (readers : Readers) : Reader Query := do
  word "DESCRIBE"
  let columns ← (do mark .star; return []) <|> (List.flatten <$> several described)
  sources
  let inside ← maybe (body readers)
  let after ← modifiers readers
  return .describe columns inside after

def ask (readers : Readers) : Reader Query := do
  word "ASK"
  sources
  let inside ← body readers
  let after ← modifiers readers
  return .ask inside after

def query (readers : Readers) : Reader Query :=
  (.select <$> select readers sources) <|> construct readers <|> describe readers <|> ask readers

/-- The query of tokens that follow the declarations. -/
def query? (tokens : List Token) : Option Query :=
  match query (readersWithin (tokens.length + 1)) tokens with
  | some (found, []) => if found.isSound then some found else none
  | _ => none

end Grammar

/-- Whether a text is a valid query. -/
def isQuery (text : String) : Bool :=
  match Token.tokens? text.toList with
  | none => false
  | some tokens =>
    let (prologue, body) := Prologue.read tokens
    body.all prologue.acceptsToken && labelsAreLocal body && (Grammar.query? body).isSome

end FacetedQuery.Sparql
