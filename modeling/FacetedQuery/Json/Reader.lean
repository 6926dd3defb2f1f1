import FacetedQuery.Json.Numeral

/-!
# Reading JSON text

A strict reader: nothing but the grammar of JSON is accepted, and nothing but white space may
follow the value of a document.
-/

namespace FacetedQuery.Json

/-- The four characters that may stand between tokens. -/
def isSpace (character : Char) : Bool :=
  character == ' ' || character == '\n' || character == '\t' || character == '\r'

def skipSpace (text : List Char) : List Char :=
  text.dropWhile isSpace

/-- The value of a hexadecimal digit. -/
def hexValue? (character : Char) : Option Nat :=
  let code := character.toNat
  if 0x30 ≤ code && code ≤ 0x39 then some (code - 0x30)
  else if 0x41 ≤ code && code ≤ 0x46 then some (code - 0x41 + 10)
  else if 0x61 ≤ code && code ≤ 0x66 then some (code - 0x61 + 10)
  else none

/-- Reads the four digits of an escaped unit of 16 bits. -/
def readUnit? : List Char → Option (Nat × List Char)
  | first :: second :: third :: fourth :: rest => do
    let digits ← [first, second, third, fourth].mapM hexValue?
    return (digits.foldl (fun total digit => total * 16 + digit) 0, rest)
  | _ => none

/-- The character that an escape of one letter stands for. -/
def simpleEscape? (letter : Char) : Option Char :=
  if letter == '"' || letter == '\\' || letter == '/' then some letter
  else if letter == 'b' then some '\x08'
  else if letter == 'f' then some '\x0c'
  else if letter == 'n' then some '\n'
  else if letter == 'r' then some '\r'
  else if letter == 't' then some '\t'
  else none

/-- One element of a string: a character, half a surrogate pair, or the end. -/
inductive StringPiece where
  | character (value : Char)
  | half
  | done

def isHighHalf (unit : Nat) : Bool :=
  0xD800 ≤ unit && unit ≤ 0xDBFF

def isLowHalf (unit : Nat) : Bool :=
  0xDC00 ≤ unit && unit ≤ 0xDFFF

/-- The character of a surrogate pair. -/
def pairChar (high low : Nat) : Char :=
  Char.ofNat (0x10000 + (high - 0xD800) * 0x400 + (low - 0xDC00))

/-- The low half of a pair that is escaped at the start of a text. -/
def readLowHalf? (text : List Char) : Option (Nat × List Char) :=
  match text with
  | '\\' :: 'u' :: rest => (readUnit? rest).filter (isLowHalf ·.1)
  | _ => none

/-- Reads an escape behind its backslash and its letter `u`. -/
def readUnicodeEscape? (text : List Char) : Option (StringPiece × List Char) := do
  let (unit, rest) ← readUnit? text
  if isHighHalf unit then
    match readLowHalf? rest with
    | some (low, after) => return (.character (pairChar unit low), after)
    | none => return (.half, rest)
  else if isLowHalf unit then
    return (.half, rest)
  else
    return (.character (Char.ofNat unit), rest)

/-- Reads one element of a string. -/
def readPiece? : List Char → Option (StringPiece × List Char)
  | [] => none
  | '"' :: rest => some (.done, rest)
  | '\\' :: 'u' :: rest => readUnicodeEscape? rest
  | '\\' :: letter :: rest => (simpleEscape? letter).map fun value => (.character value, rest)
  | character :: rest =>
    if character.toNat < 0x20 || character == '\\' then none
    else some (.character character, rest)

/-- Reads the elements of a string, one in each of the given steps.  The string has no text if it
holds half a pair. -/
def readStringBody? : Nat → List Char → Option (Option (List Char) × List Char)
  | 0, _ => none
  | steps + 1, text =>
    match readPiece? text with
    | none => none
    | some (.done, rest) => some (some [], rest)
    | some (.half, rest) =>
      (readStringBody? steps rest).map fun result => (none, result.2)
    | some (.character value, rest) =>
      (readStringBody? steps rest).map fun result => (result.1.map (value :: ·), result.2)

/-- Reads a string behind its opening quote. -/
def readString? (steps : Nat) (text : List Char) : Option (Option String × List Char) :=
  (readStringBody? steps text).map fun result => (result.1.map String.ofList, result.2)

/-- Removes a word at the start of a text. -/
def dropWord? : List Char → List Char → Option (List Char)
  | [], text => some text
  | _ :: _, [] => none
  | expected :: word, character :: rest =>
    if expected == character then dropWord? word rest else none

/-- The object of the members; one without a readable key denotes nothing. -/
def objectOf (members : List (Option String × Value)) : Value :=
  match members.mapM fun member => member.1.map (·, member.2) with
  | some readable => .object readable
  | none => .unreadable

mutual

/-- Reads the value at the start of a text.  Every call takes one of the given steps. -/
def readValue? : Nat → List Char → Option (Value × List Char)
  | 0, _ => none
  | steps + 1, text =>
    match skipSpace text with
    | [] => none
    | 'n' :: rest => (dropWord? "ull".toList rest).map fun after => (.null, after)
    | 't' :: rest => (dropWord? "rue".toList rest).map fun after => (.boolean true, after)
    | 'f' :: rest => (dropWord? "alse".toList rest).map fun after => (.boolean false, after)
    | '"' :: rest =>
      (readString? steps rest).map fun result =>
        (match result.1 with
          | some value => .text value
          | none => .unreadable, result.2)
    | '[' :: rest =>
      match skipSpace rest with
      | ']' :: after => some (.array [], after)
      | _ => (readItems? steps rest).map fun result => (.array result.1, result.2)
    | '{' :: rest =>
      match skipSpace rest with
      | '}' :: after => some (.object [], after)
      | _ => (readMembers? steps rest).map fun result => (objectOf result.1, result.2)
    | start :: rest =>
      (readNumeral? (start :: rest)).map fun result =>
        (match result.1.number? with
          | some value => .number value
          | none => .unreadable, result.2)

/-- Reads one or more items and the closing bracket. -/
def readItems? : Nat → List Char → Option (List Value × List Char)
  | 0, _ => none
  | steps + 1, text =>
    match readValue? steps text with
    | none => none
    | some (item, rest) =>
      match skipSpace rest with
      | ']' :: after => some ([item], after)
      | ',' :: after =>
        (readItems? steps after).map fun result => (item :: result.1, result.2)
      | _ => none

/-- Reads one or more members and the closing brace. -/
def readMembers? : Nat → List Char → Option (List (Option String × Value) × List Char)
  | 0, _ => none
  | steps + 1, text =>
    match skipSpace text with
    | '"' :: keyText =>
      match readString? steps keyText with
      | none => none
      | some (key, afterKey) =>
        match skipSpace afterKey with
        | ':' :: valueText =>
          match readValue? steps valueText with
          | none => none
          | some (value, rest) =>
            match skipSpace rest with
            | '}' :: after => some ([(key, value)], after)
            | ',' :: after =>
              (readMembers? steps after).map fun result => ((key, value) :: result.1, result.2)
            | _ => none
        | _ => none
    | _ => none

end

/-- The value of a document. -/
def read? (document : List Char) : Option Value :=
  match readValue? (2 * document.length + 2) document with
  | some (value, rest) => if (skipSpace rest).isEmpty then some value else none
  | none => none

end FacetedQuery.Json
