import FacetedQuery.Decimal.Notation

/-!
# JSON values

The values that JSON documents denote, and their compact text.  Members of an object keep the
order of the document, and a key may be repeated.
-/

namespace FacetedQuery.Json

/-- A number of a document: an unsigned integer of 64 bits, the magnitude of a negative integer of
64 bits, or a double-precision number. -/
inductive Number where
  | natural (value : Nat)
  | negative (magnitude : Nat)
  | real (value : Float)

/-- A value of a document.  What is well formed and yet denotes nothing, half a surrogate pair in a
string or a number beyond the greatest double, is `unreadable`; it does no harm where it is not
looked at. -/
inductive Value where
  | null
  | boolean (value : Bool)
  | number (value : Number)
  | text (value : String)
  | array (items : List Value)
  | object (members : List (String × Value))
  | unreadable

def Value.natural (value : Nat) : Value :=
  .number (.natural value)

/-- An integer as a number of a document. -/
def Value.integer (value : Int) : Value :=
  .number (if value < 0 then .negative value.natAbs else .natural value.natAbs)

def Value.real (value : Float) : Value :=
  .number (.real value)

/-- A text, or `null` without one. -/
def Value.ofText? : Option String → Value
  | none => .null
  | some content => .text content

/-- The members of an object with those removed that have no value. -/
def presentMembers (members : List (String × Option Value)) : List (String × Value) :=
  members.filterMap fun member => member.2.map (member.1, ·)

/-- A lowercase hexadecimal digit. -/
def lowerHexDigit (digit : Nat) : Char :=
  if digit < 10 then Char.ofNat ('0'.toNat + digit) else Char.ofNat ('a'.toNat + (digit - 10))

/-- A character as it stands between quotes. -/
def escapeChar (character : Char) : List Char :=
  if character == '"' then ['\\', '"']
  else if character == '\\' then ['\\', '\\']
  else if character == '\n' then ['\\', 'n']
  else if character == '\r' then ['\\', 'r']
  else if character == '\t' then ['\\', 't']
  else if character == '\x08' then ['\\', 'b']
  else if character == '\x0c' then ['\\', 'f']
  else if character.toNat < 0x20 then
    ['\\', 'u', '0', '0', lowerHexDigit (character.toNat / 16),
      lowerHexDigit (character.toNat % 16)]
  else [character]

/-- A text in quotes. -/
def quote (text : List Char) : List Char :=
  '"' :: text.flatMap escapeChar ++ ['"']

/-- A number as it is written.  What is not finite has no number and is written `null`. -/
def Number.write : Number → List Char
  | .natural value => Decimal.digits value
  | .negative magnitude => '-' :: Decimal.digits magnitude
  | .real value => (Decimal.mixed? value).getD "null".toList

mutual

/-- The compact text of a value. -/
def Value.write : Value → List Char
  | .null => "null".toList
  | .boolean true => "true".toList
  | .boolean false => "false".toList
  | .number value => value.write
  | .text value => quote value.toList
  | .array items => '[' :: writeItems items ++ [']']
  | .object members => '{' :: writeMembers members ++ ['}']
  | .unreadable => "null".toList

def writeItems : List Value → List Char
  | [] => []
  | [item] => item.write
  | item :: items => item.write ++ ',' :: writeItems items

def writeMembers : List (String × Value) → List Char
  | [] => []
  | [(key, value)] => quote key.toList ++ ':' :: value.write
  | (key, value) :: members =>
    quote key.toList ++ ':' :: value.write ++ ',' :: writeMembers members

end

/-- The compact text of a value as a string. -/
def Value.compact (value : Value) : String :=
  String.ofList value.write

mutual

/-- How deep arrays and objects are nested. -/
def Value.depth : Value → Nat
  | .array items => 1 + depthList items
  | .object members => 1 + depthMembers members
  | _ => 0

def depthList : List Value → Nat
  | [] => 0
  | item :: items => max item.depth (depthList items)

def depthMembers : List (String × Value) → Nat
  | [] => 0
  | (_, value) :: members => max value.depth (depthMembers members)

end

mutual

/-- Whether a value denotes something throughout. -/
def Value.isReadable : Value → Bool
  | .unreadable => false
  | .array items => isReadableList items
  | .object members => isReadableMembers members
  | _ => true

def isReadableList : List Value → Bool
  | [] => true
  | item :: items => item.isReadable && isReadableList items

def isReadableMembers : List (String × Value) → Bool
  | [] => true
  | (_, value) :: members => value.isReadable && isReadableMembers members

end

end FacetedQuery.Json
