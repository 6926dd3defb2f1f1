/-!
# Decimal digits

Natural numbers and integers in decimal notation, and the readers for the ranges of machine
integers that the formats of this library prescribe.
-/

namespace FacetedQuery.Decimal

def digitChar (digit : Nat) : Char :=
  Char.ofNat ('0'.toNat + digit)

def digitValue (character : Char) : Nat :=
  character.toNat - '0'.toNat

/-- The decimal digits of a number, with no leading zero but for zero itself. -/
def digits (number : Nat) : List Char :=
  if number < 10 then [digitChar number]
  else digits (number / 10) ++ [digitChar (number % 10)]

/-- The number that a row of digits denotes, continued from the digits before it. -/
def valueFrom (start : Nat) (row : List Char) : Nat :=
  row.foldl (fun total character => total * 10 + digitValue character) start

/-- The number that a row of digits denotes. -/
def value (row : List Char) : Nat :=
  valueFrom 0 row

/-- A natural number in decimal notation. -/
def natural (number : Nat) : String :=
  String.ofList (digits number)

/-- An integer in decimal notation, with a sign only if it is negative. -/
def integer (number : Int) : String :=
  if number < 0 then "-" ++ natural number.natAbs else natural number.natAbs

/-- Pads a row of digits with zeros on the left. -/
def pad (width : Nat) (row : List Char) : List Char :=
  List.replicate (width - row.length) '0' ++ row

/-- Reads one or more digits that make up the whole text. -/
def readNatural? (text : List Char) : Option Nat :=
  if text.isEmpty || !text.all Char.isDigit then none else some (value text)

/-- One more than the greatest unsigned integer of 64 bits. -/
def unsignedLimit : Nat :=
  Nat.pow 2 64

/-- One more than the greatest signed integer of 64 bits. -/
def signedLimit : Nat :=
  Nat.pow 2 63

def fitsSigned (number : Int) : Bool :=
  -(signedLimit : Int) ≤ number && number < signedLimit

/-- Reads an unsigned integer of 64 bits; a plus sign may stand before it. -/
def readUnsigned? (text : List Char) : Option Nat :=
  let row := match text with
    | '+' :: rest => rest
    | _ => text
  (readNatural? row).filter (· < unsignedLimit)

/-- Reads an integer with an optional sign. -/
def readInteger? (text : List Char) : Option Int :=
  match text with
  | '+' :: rest => (readNatural? rest).map Int.ofNat
  | '-' :: rest => (readNatural? rest).map fun magnitude => -(magnitude : Int)
  | _ => (readNatural? text).map Int.ofNat

/-- Reads a signed integer of 64 bits with an optional sign. -/
def readSigned? (text : List Char) : Option Int :=
  (readInteger? text).filter fitsSigned

end FacetedQuery.Decimal
