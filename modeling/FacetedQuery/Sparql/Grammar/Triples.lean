import FacetedQuery.Sparql.Grammar.Path

/-!
# Grammar of triples

A subject is followed by verbs with their objects.  A node may itself be a collection or be given
by what is stated about it; as a subject such a node needs no verb.
-/

namespace FacetedQuery.Sparql.Grammar

open Reader

/-- Reads a literal that starts with its text. -/
def quotedForm : Reader LiteralForm := do
  let content ← text
  (do
    mark .doubleCaret
    .typed content <$> resource) <|>
  (.tagged content <$> token fun
    | .language tag => some tag
    | _ => none) <|>
  pure (.plain content)

def numberForm : Reader LiteralForm :=
  token fun
    | .number sign digits => some (.number sign digits)
    | _ => none

def booleanForm : Reader LiteralForm :=
  (do smallWord "true"; return .boolean true) <|> (do smallWord "false"; return .boolean false)

def literalForm : Reader LiteralForm :=
  quotedForm <|> numberForm <|> booleanForm

/-- Reads a verb with its objects. -/
def statement (verb : Reader Verb) (node : Reader Node) : Reader Statement := do
  let about ← verb
  let objects ← separated (mark .comma) node
  return .about about objects

/-- Reads one or more statements with semicolons between and behind them. -/
def statements (verb : Reader Verb) (node : Reader Node) : Reader (List Statement) := do
  let first ← statement verb node
  let rest ← many (do mark .semicolon; maybe (statement verb node))
  return first :: rest.filterMap id

/-- Reads a node, given a reader of the nodes inside of it. -/
def nodeWith (verb : Reader Verb) (inner : Reader Node) : Reader Node :=
  (.var <$> variableName) <|>
  (.resource <$> resource) <|>
  (.literal <$> literalForm) <|>
  (token fun
    | .blank label => some (.blank label)
    | _ => none) <|>
  (do
    mark .openBracket
    let content ← maybe (statements verb inner)
    mark .closeBracket
    return match content with
      | none => .anonymous
      | some list => .described list) <|>
  (.collection <$> parenthesised (many inner))

/-- Reads a node that is nested at most as deep as given. -/
def nodeWithin (verb : Reader Verb) : Nat → Reader Node
  | 0 => failure
  | depth + 1 => nodeWith verb (nodeWithin verb depth)

def node (verb : Reader Verb) : Reader Node :=
  fun tokens => nodeWithin verb tokens.length tokens

/-- Whether a subject needs no verb. -/
def standsAlone : Node → Bool
  | .described _ => true
  | .collection (_ :: _) => true
  | _ => false

/-- Reads a subject and what is stated about it. -/
def triples (verb : Reader Verb) : Reader Triples := do
  let subject ← node verb
  if standsAlone subject then
    let list ← maybe (statements verb (node verb))
    return ⟨subject, list.getD []⟩
  else
    let list ← statements verb (node verb)
    return ⟨subject, list⟩

/-- Reads triples with points between and behind them. -/
def block (verb : Reader Verb) : Reader (List Triples) := do
  let list ← separated (mark .dot) (triples verb)
  let _ ← taken (mark .dot)
  return list

end FacetedQuery.Sparql.Grammar
