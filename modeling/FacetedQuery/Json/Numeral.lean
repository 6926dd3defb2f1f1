import FacetedQuery.Json.Value

/-!
# Numbers of JSON documents

A number without fraction and exponent is an integer if it fits into 64 bits.  Every other number
is a significand of 64 bits and a power of ten, and its value is one floating-point product or
quotient of the two; digits that the significand cannot take are counted before the point and
dropped behind it.
-/

namespace FacetedQuery.Json

/-- A number of a document as it is spelt. -/
structure Numeral where
  negative : Bool
  whole : List Char
  fraction : Option (List Char)
  exponent : Option Int

/-- A significand and the power of ten that goes with it. -/
structure Significand where
  value : Nat
  exponent : Int

/-- Takes the digits before the point while they fit and counts the others. -/
def Significand.takeWhole (significand : Significand) : List Char → Significand
  | [] => significand
  | digit :: rest =>
    let next := significand.value * 10 + Decimal.digitValue digit
    if next < Decimal.unsignedLimit then
      Significand.takeWhole { significand with value := next } rest
    else { significand with exponent := significand.exponent + (digit :: rest).length }

/-- Takes the digits behind the point while they fit. -/
def Significand.takeFraction (significand : Significand) : List Char → Significand
  | [] => significand
  | digit :: rest =>
    let next := significand.value * 10 + Decimal.digitValue digit
    if next < Decimal.unsignedLimit then
      Significand.takeFraction ⟨next, significand.exponent - 1⟩ rest
    else significand

/-- The greatest power of ten that a double-precision number holds. -/
def greatestPower : Nat :=
  308

/-- A power of ten up to the greatest. -/
def powerOfTen (exponent : Nat) : Float :=
  Float.ofScientific 1 false exponent

/-- Divides by a power of ten, in steps of the greatest one. -/
def scaleDown (value : Float) (exponent : Nat) : Float :=
  if exponent ≤ greatestPower then value / powerOfTen exponent
  else if value == 0 then value
  else scaleDown (value / powerOfTen greatestPower) (exponent - greatestPower)
termination_by exponent
decreasing_by simp only [greatestPower] at *; omega

/-- The value of a significand, unless it is beyond the greatest number. -/
def Significand.toFloat? (significand : Significand) : Option Float :=
  let value := (UInt64.ofNat significand.value).toFloat
  if significand.exponent < 0 then some (scaleDown value significand.exponent.natAbs)
  else if greatestPower < significand.exponent.natAbs then
    if value == 0 then some value else none
  else
    let product := value * powerOfTen significand.exponent.natAbs
    if product.isInf then none else some product

def Numeral.significand (numeral : Numeral) : Significand :=
  let whole := Significand.takeWhole ⟨0, 0⟩ numeral.whole
  let all := Significand.takeFraction whole (numeral.fraction.getD [])
  { all with exponent := all.exponent + numeral.exponent.getD 0 }

/-- The number as a double-precision number, unless it is beyond the greatest one. -/
def Numeral.real? (numeral : Numeral) : Option Number :=
  numeral.significand.toFloat?.map fun magnitude =>
    .real (if numeral.negative then -magnitude else magnitude)

/-- The number that a numeral denotes, if any. -/
def Numeral.number? (numeral : Numeral) : Option Number :=
  match numeral.fraction, numeral.exponent with
  | none, none =>
    let magnitude := Decimal.value numeral.whole
    if numeral.negative then
      if 0 < magnitude && magnitude ≤ Decimal.signedLimit then some (.negative magnitude)
      else numeral.real?
    else if magnitude < Decimal.unsignedLimit then some (.natural magnitude)
    else numeral.real?
  | _, _ => numeral.real?

/-- The digits at the start of a text and what follows them. -/
def spanDigits (text : List Char) : List Char × List Char :=
  (text.takeWhile Char.isDigit, text.dropWhile Char.isDigit)

/-- Reads the digits before the point: a zero alone, or digits that start with another. -/
def readWhole? (text : List Char) : Option (List Char × List Char) :=
  match text with
  | '0' :: rest => some (['0'], rest)
  | _ =>
    match spanDigits text with
    | ([], _) => none
    | parts => some parts

/-- Reads an optional point with at least one digit behind it. -/
def readFraction? (text : List Char) : Option (Option (List Char) × List Char) :=
  match text with
  | '.' :: rest =>
    match spanDigits rest with
    | ([], _) => none
    | (row, after) => some (some row, after)
  | _ => some (none, text)

/-- Reads the sign and the digits of an exponent. -/
def readExponentDigits? (text : List Char) : Option (Int × List Char) :=
  let split := match text with
    | '-' :: rest => (true, rest)
    | '+' :: rest => (false, rest)
    | _ => (false, text)
  match spanDigits split.2 with
  | ([], _) => none
  | (row, after) =>
    let magnitude : Int := Decimal.value row
    some (if split.1 then -magnitude else magnitude, after)

/-- Reads an optional exponent. -/
def readExponent? (text : List Char) : Option (Option Int × List Char) :=
  match text with
  | 'e' :: rest => (readExponentDigits? rest).map fun parts => (some parts.1, parts.2)
  | 'E' :: rest => (readExponentDigits? rest).map fun parts => (some parts.1, parts.2)
  | _ => some (none, text)

/-- Reads the number at the start of a text. -/
def readNumeral? (text : List Char) : Option (Numeral × List Char) := do
  let split := match text with
    | '-' :: rest => (true, rest)
    | _ => (false, text)
  let (whole, afterWhole) ← readWhole? split.2
  let (fraction, afterFraction) ← readFraction? afterWhole
  let (exponent, rest) ← readExponent? afterFraction
  return (⟨split.1, whole, fraction, exponent⟩, rest)

end FacetedQuery.Json
