import FacetedQuery.Json.Value

/-!
# Documents laid out for readers

A document with every item and every member on a line of its own.  Lines are indented by two blanks
for each array or object around them, and what is empty stays on one line.
-/

namespace FacetedQuery.Json

/-- The start of a line that so many arrays and objects enclose. -/
def lineStart (enclosing : Nat) : List Char :=
  '\n' :: List.replicate (2 * enclosing) ' '

mutual

/-- The text of a value that so many arrays and objects enclose. -/
def Value.layOut (enclosing : Nat) : Value → List Char
  | .array (item :: items) =>
    '[' :: layOutItems (enclosing + 1) (item :: items) ++ lineStart enclosing ++ [']']
  | .object (entry :: entries) =>
    '{' :: layOutMembers (enclosing + 1) (entry :: entries) ++ lineStart enclosing ++ ['}']
  | value => value.write

def layOutItems (enclosing : Nat) : List Value → List Char
  | [] => []
  | [item] => lineStart enclosing ++ item.layOut enclosing
  | item :: items =>
    lineStart enclosing ++ item.layOut enclosing ++ ',' :: layOutItems enclosing items

def layOutMembers (enclosing : Nat) : List (String × Value) → List Char
  | [] => []
  | [(key, value)] =>
    lineStart enclosing ++ quote key.toList ++ ':' :: ' ' :: value.layOut enclosing
  | (key, value) :: entries =>
    lineStart enclosing ++ quote key.toList ++ ':' :: ' ' :: value.layOut enclosing ++
      ',' :: layOutMembers enclosing entries

end

/-- The text of a value on indented lines. -/
def Value.indented (value : Value) : String :=
  String.ofList (value.layOut 0)

end FacetedQuery.Json
