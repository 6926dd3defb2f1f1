import FacetedQuery.Decimal.Digits
import FacetedQuery.Decimal.Shortest

/-!
# Notations of numbers

Two notations of a double-precision number by its shortest decimal.  The plain notation is always
positional.  The mixed notation is positional for moderate magnitudes, where it shows that the
number is no integer type by a fraction, and scientific beyond them.
-/

namespace FacetedQuery.Decimal

/-- The decimal point falls this many places after the start of the digits. -/
def pointPlace (number : ScaledDecimal) : Int :=
  (digits number.coefficient).length + number.exponent

/-- Positional notation; `whole` is what follows the digits of an integer. -/
def positional (whole : List Char) (number : ScaledDecimal) : List Char :=
  let row := digits number.coefficient
  let place := pointPlace number
  if place ≤ 0 then
    '0' :: '.' :: List.replicate (-place).toNat '0' ++ row
  else if number.exponent < 0 then
    row.take place.toNat ++ '.' :: row.drop place.toNat
  else
    row ++ List.replicate number.exponent.toNat '0' ++ whole

/-- Scientific notation with one digit before the point and an exponent that bears a sign. -/
def scientific (number : ScaledDecimal) : List Char :=
  let exponent := pointPlace number - 1
  let mark := if exponent < 0 then ['e', '-'] else ['e', '+']
  match digits number.coefficient with
  | [] => []
  | [digit] => digit :: mark ++ digits exponent.natAbs
  | digit :: fraction => digit :: '.' :: fraction ++ mark ++ digits exponent.natAbs

def signed (negative : Bool) (magnitude : List Char) : List Char :=
  if negative then '-' :: magnitude else magnitude

/-- The plain notation of a number; equally near neighbours are rounded up. -/
def plain (number : Float) : String :=
  String.ofList <|
    match FloatClass.ofFloat number with
    | .notANumber => "NaN".toList
    | .infinite negative => signed negative "INF".toList
    | .zero negative => signed negative ['0']
    | .finite parts => signed parts.negative (positional [] (parts.shortest .up))

/-- Magnitudes from `10 ^ -5` up to but not including `10 ^ 16` are moderate. -/
def isModerate (number : ScaledDecimal) : Bool :=
  -4 ≤ pointPlace number && pointPlace number ≤ 16

/-- The mixed notation of a finite number; of equally near neighbours the even one is taken. -/
def mixed? (number : Float) : Option (List Char) :=
  match FloatClass.ofFloat number with
  | .notANumber => none
  | .infinite _ => none
  | .zero negative => some (signed negative ['0', '.', '0'])
  | .finite parts =>
    let decimal := parts.shortest .even
    some <| signed parts.negative <|
      if isModerate decimal then positional ['.', '0'] decimal else scientific decimal

end FacetedQuery.Decimal
