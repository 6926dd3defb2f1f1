import FacetedQuery.Sparql.Syntax

/-!
# Readers of tokens

A reader takes what it reads from the start of a list of tokens, or fails and leaves them as they
are.  Repetition takes as much as it can.
-/

namespace FacetedQuery.Sparql

abbrev Reader := StateT (List Token) Option

namespace Reader

/-- Reads one token through what it stands for. -/
def token (meaning? : Token → Option α) : Reader α
  | [] => none
  | first :: rest => (meaning? first).map (·, rest)

def mark (expected : Mark) : Reader Unit :=
  token fun
    | .mark found => if found = expected then some () else none
    | _ => none

/-- The capital letters of a word. -/
def capitals (letters : String) : String :=
  String.ofList (letters.toList.map Char.toUpper)

/-- Reads a keyword, in small or capital letters. -/
def word (expected : String) : Reader Unit :=
  token fun
    | .word letters => if capitals letters = expected then some () else none
    | _ => none

def variableName : Reader String :=
  token fun
    | .var name => some name
    | _ => none

def resource : Reader IriName :=
  token fun
    | .name value => some value
    | _ => none

def text : Reader String :=
  token fun
    | .string value => some value
    | _ => none

/-- Reads an unsigned integer of 64 bits. -/
def count : Reader Nat :=
  token fun
    | .number .none digits => Decimal.readUnsigned? digits.toList
    | _ => none

/-- Reads what may be missing. -/
def maybe (item : Reader α) : Reader (Option α) :=
  (some <$> item) <|> pure none

/-- Whether something stands next; it is taken if it does. -/
def taken (item : Reader Unit) : Reader Bool :=
  (do item; return true) <|> pure false

/-- Reads items as long as there are any, at most `limit`. -/
def manyWithin (limit : Nat) (item : Reader α) : Reader (List α) :=
  match limit with
  | 0 => pure []
  | limit + 1 =>
    (do
      let first ← item
      let rest ← manyWithin limit item
      return first :: rest) <|> pure []

/-- Reads items, each of at least one token, as long as there are any. -/
def many (item : Reader α) : Reader (List α) :=
  fun tokens => manyWithin tokens.length item tokens

/-- Reads one or more items. -/
def several (item : Reader α) : Reader (List α) := do
  let first ← item
  let rest ← many item
  return first :: rest

/-- Reads one or more items with separators between them. -/
def separated (separator : Reader Unit) (item : Reader α) : Reader (List α) := do
  let first ← item
  let rest ← many (do separator; item)
  return first :: rest

/-- Reads operands from left to right. -/
def chain (separator : Reader Unit) (combine : α → α → α) (operand : Reader α) : Reader α := do
  let first ← operand
  let rest ← many (do separator; operand)
  return rest.foldl combine first

/-- Reads an item in parentheses. -/
def parenthesised (item : Reader α) : Reader α := do
  mark .openParen
  let content ← item
  mark .closeParen
  return content

/-- Reads a list in parentheses, which may be empty. -/
def listed (item : Reader α) : Reader (List α) :=
  parenthesised (separated (mark .comma) item <|> pure [])

end Reader

end FacetedQuery.Sparql
