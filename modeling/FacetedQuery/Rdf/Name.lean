/-!
# Names of variables and blank nodes

Both kinds of names start alike; they differ in the characters that may follow.
-/

namespace FacetedQuery.Rdf

namespace Name

/-- The letters of names beyond ASCII. -/
def isWideLetter (code : Nat) : Bool :=
  (0xC0 ≤ code && code ≤ 0xD6) || (0xD8 ≤ code && code ≤ 0xF6) ||
    (0xF8 ≤ code && code ≤ 0x2FF) || (0x370 ≤ code && code ≤ 0x37D) ||
    (0x37F ≤ code && code ≤ 0x1FFF) || (0x200C ≤ code && code ≤ 0x200D) ||
    (0x2070 ≤ code && code ≤ 0x218F) || (0x2C00 ≤ code && code ≤ 0x2FEF) ||
    (0x3001 ≤ code && code ≤ 0xD7FF) || (0xF900 ≤ code && code ≤ 0xFDCF) ||
    (0xFDF0 ≤ code && code ≤ 0xFFFD) || (0x10000 ≤ code && code ≤ 0xEFFFF)

/-- The letters that a name may start with, apart from digits, the underscore and the colon. -/
def isLetter (character : Char) : Bool :=
  character.isAlpha || isWideLetter character.toNat

def isStart (character : Char) : Bool :=
  character == ':' || character == '_' || character.isDigit || isLetter character

/-- The characters that may follow in the name of a variable. -/
def isVariableRest (character : Char) : Bool :=
  let code := character.toNat
  character == '_' || character.isDigit || isLetter character || code == 0xB7 ||
    (0x300 ≤ code && code ≤ 0x36F) || (0x203F ≤ code && code ≤ 0x2040)

/-- The characters that may follow in the label of a blank node. -/
def isLabelRest (character : Char) : Bool :=
  character == ':' || character == '-' || character == '.' || isVariableRest character

/-- Whether a text is the name of a variable. -/
def isVariable : List Char → Bool
  | [] => false
  | first :: rest => isStart first && rest.all isVariableRest

/-- Whether a text is the label of a blank node. -/
def isLabel : List Char → Bool
  | [] => false
  | first :: rest => isStart first && rest.all isLabelRest && rest.getLast? != some '.'

end Name

/-- A variable of a query. -/
structure Variable where
  name : String
  wellFormed : Name.isVariable name.toList = true
deriving DecidableEq

namespace Variable

/-- The variable of a name, if it is the name of a variable. -/
def ofName? (name : String) : Option Variable :=
  if wellFormed : Name.isVariable name.toList = true then some ⟨name, wellFormed⟩ else none

/-- A variable behind its question mark. -/
def render (target : Variable) : String :=
  "?" ++ target.name

end Variable

end FacetedQuery.Rdf
