import FacetedQuery.Decimal.Digits

/-!
# Reading numbers

The grammar of decimal numbers with an optional fraction and an optional exponent, and the
double-precision number nearest to one.
-/

namespace FacetedQuery.Decimal

/-- The parts of a decimal number: its digits before and after the point and its exponent. -/
structure Numeral where
  negative : Bool
  whole : List Char
  fraction : List Char
  exponent : Int

/-- Removes an optional sign; the flag says whether it was a minus sign. -/
def readSign : List Char → Bool × List Char
  | '-' :: rest => (true, rest)
  | '+' :: rest => (false, rest)
  | text => (false, text)

/-- Reads the part of a number after its digits: nothing, or a mark, an optional sign and digits. -/
def readExponent? : List Char → Option Int
  | [] => some 0
  | mark :: rest =>
    if mark == 'e' || mark == 'E' then
      let sign := readSign rest
      (readNatural? sign.2).map fun magnitude =>
        if sign.1 then -(magnitude : Int) else magnitude
    else none

/-- Reads an unsigned number with at least one digit before or after an optional point. -/
def readMagnitude? (negative : Bool) (text : List Char) : Option Numeral :=
  let whole := text.takeWhile Char.isDigit
  let fraction := match text.dropWhile Char.isDigit with
    | '.' :: rest => (rest.takeWhile Char.isDigit, rest.dropWhile Char.isDigit)
    | rest => ([], rest)
  if whole.isEmpty && fraction.1.isEmpty then none
  else (readExponent? fraction.2).map fun exponent => ⟨negative, whole, fraction.1, exponent⟩

/-- All digits of a numeral read as one number. -/
def Numeral.coefficient (numeral : Numeral) : Nat :=
  value (numeral.whole ++ numeral.fraction)

/-- The power of ten that belongs to the coefficient. -/
def Numeral.scale (numeral : Numeral) : Int :=
  numeral.exponent - numeral.fraction.length

def infinity : Float :=
  1.0 / 0.0

/-- The double-precision number nearest to `coefficient · 10 ^ exponent`.  Beyond the range of
exponents that matter the answer is infinity or zero, whatever the coefficient. -/
def nearestFloat (coefficient : Nat) (exponent : Int) : Float :=
  if coefficient == 0 then 0.0
  else
    let place := ((digits coefficient).length : Int) + exponent
    if 400 < place then infinity
    else if place < -400 then 0.0
    else Float.ofScientific coefficient (exponent < 0) exponent.natAbs

def Numeral.toFloat (numeral : Numeral) : Float :=
  let magnitude := nearestFloat numeral.coefficient numeral.scale
  if numeral.negative then -magnitude else magnitude

/-- Reads a number with an optional sign: digits with an optional point and exponent, or a name of
infinity or of no number in any case of letters. -/
def readFloat? (text : List Char) : Option Float :=
  let sign := readSign text
  let name := sign.2.map Char.toLower
  if name == "inf".toList || name == "infinity".toList then
    some (if sign.1 then -infinity else infinity)
  else if name == "nan".toList then some (0.0 / 0.0)
  else (readMagnitude? sign.1 sign.2).map Numeral.toFloat

end FacetedQuery.Decimal
