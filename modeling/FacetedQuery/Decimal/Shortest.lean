/-!
# Shortest decimals

The decimal number with the fewest digits that a double-precision number is nearest to.  A finite
number other than zero is an integer `mantissa` times a power of two.  The reals that round to it
form an interval around it.  Of the grids of multiples of `10 ^ k` the widest that has a point in
the interval decides the number of digits; of two such points the nearer one is taken.
-/

namespace FacetedQuery

/-- The number `coefficient · 10 ^ exponent`. -/
structure ScaledDecimal where
  coefficient : Nat
  exponent : Int
deriving DecidableEq, Repr

/-- What is chosen of two neighbours that are equally near. -/
inductive TieRule where
  | even
  | up
deriving DecidableEq

/-- A finite double-precision number other than zero, `± mantissa · 2 ^ exponent`.  The flag says
that the numbers below it lie twice as dense as those above. -/
structure BinaryFloat where
  negative : Bool
  mantissa : Nat
  exponent : Int
  lowerHalf : Bool

/-- A double-precision number by its kind. -/
inductive FloatClass where
  | notANumber
  | infinite (negative : Bool)
  | zero (negative : Bool)
  | finite (number : BinaryFloat)

/-- Takes the bits of a double-precision number apart. -/
def FloatClass.ofBits (bits : Nat) : FloatClass :=
  let negative := bits / Nat.pow 2 63 % 2 == 1
  let scale : Nat := bits / Nat.pow 2 52 % Nat.pow 2 11
  let fraction : Nat := bits % Nat.pow 2 52
  if scale == 2047 then
    if fraction == 0 then .infinite negative else .notANumber
  else if scale == 0 then
    if fraction == 0 then .zero negative
    else .finite ⟨negative, fraction, -1074, false⟩
  else
    .finite ⟨negative, Nat.pow 2 52 + fraction, (scale : Int) - 1075, fraction == 0 && 1 < scale⟩

def FloatClass.ofFloat (number : Float) : FloatClass :=
  .ofBits number.toBits.toNat

/-- A magnitude and the ends of the interval of reals that round to it, over one denominator. -/
structure RoundingInterval where
  low : Nat
  centre : Nat
  high : Nat
  denominator : Nat
  endsIncluded : Bool

/-- The interval of a number reaches halfway to its neighbours, and its ends belong to it if the
mantissa is even. -/
def BinaryFloat.interval (number : BinaryFloat) : RoundingInterval :=
  let exponent := number.exponent - 2
  let factor := Nat.pow 2 exponent.toNat
  { low := (4 * number.mantissa - (if number.lowerHalf then 1 else 2)) * factor
    centre := 4 * number.mantissa * factor
    high := (4 * number.mantissa + 2) * factor
    denominator := Nat.pow 2 (-exponent).toNat
    endsIncluded := number.mantissa % 2 == 0 }

/-- The interval with `10 ^ exponent` as the unit. -/
def RoundingInterval.rescale (interval : RoundingInterval) (exponent : Int) : RoundingInterval :=
  let factor := Nat.pow 10 (-exponent).toNat
  { interval with
    low := interval.low * factor
    centre := interval.centre * factor
    high := interval.high * factor
    denominator := interval.denominator * Nat.pow 10 exponent.toNat }

/-- Whether an integer lies in the interval. -/
def RoundingInterval.holds (interval : RoundingInterval) (point : Nat) : Bool :=
  let scaled := point * interval.denominator
  if interval.endsIncluded then interval.low ≤ scaled && scaled ≤ interval.high
  else interval.low < scaled && scaled < interval.high

/-- The integer of the interval that is nearest to the number, if there is one. -/
def RoundingInterval.nearest? (interval : RoundingInterval) (tie : TieRule) : Option Nat :=
  let below := interval.centre / interval.denominator
  let above := below + 1
  match interval.holds below, interval.holds above with
  | true, false => some below
  | false, true => some above
  | false, false => none
  | true, true =>
    let distanceBelow := interval.centre - below * interval.denominator
    let distanceAbove := above * interval.denominator - interval.centre
    if distanceBelow < distanceAbove then some below
    else if distanceAbove < distanceBelow then some above
    else
      match tie with
      | .up => some above
      | .even => if below % 2 == 0 then some below else some above

/-- Tries the grids from the exponent downwards. -/
def RoundingInterval.firstGrid (interval : RoundingInterval) (tie : TieRule) :
    Nat → Int → ScaledDecimal
  | 0, exponent =>
    let unit := interval.rescale exponent
    ⟨unit.centre / unit.denominator, exponent⟩
  | steps + 1, exponent =>
    match (interval.rescale exponent).nearest? tie with
    | some coefficient => ⟨coefficient, exponent⟩
    | none => interval.firstGrid tie steps (exponent - 1)

/-- An exponent of ten above the magnitude of the number. -/
def BinaryFloat.topExponent (number : BinaryFloat) : Int :=
  ((number.mantissa.log2 : Int) + 1 + number.exponent) * 30103 / 100000 + 1

/-- The shortest decimal of a magnitude.  Seventeen digits always suffice. -/
def BinaryFloat.shortest (number : BinaryFloat) (tie : TieRule) : ScaledDecimal :=
  number.interval.firstGrid tie 20 number.topExponent

end FacetedQuery
