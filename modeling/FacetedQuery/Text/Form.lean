import FacetedQuery.Text.Utf8

/-!
# Form encoding

The encoding `application/x-www-form-urlencoded` of a form field: a blank becomes a plus sign,
unreserved characters stay, and every other byte of the UTF-8 form becomes a percent escape.
-/

namespace FacetedQuery.Text

/-- An uppercase hexadecimal digit. -/
def hexDigit (value : Nat) : Char :=
  if value < 10 then Char.ofNat ('0'.toNat + value) else Char.ofNat ('A'.toNat + (value - 10))

/-- The bytes that form encoding keeps. -/
def isUnreserved (byte : UInt8) : Bool :=
  let code := byte.toNat
  (0x30 ≤ code && code ≤ 0x39) || (0x41 ≤ code && code ≤ 0x5A) ||
    (0x61 ≤ code && code ≤ 0x7A) || code == 0x2A || code == 0x2D || code == 0x2E || code == 0x5F

def formByte (byte : UInt8) : List Char :=
  if isUnreserved byte then [Char.ofNat byte.toNat]
  else if byte == 0x20 then ['+']
  else ['%', hexDigit (byte.toNat / 16), hexDigit (byte.toNat % 16)]

/-- The form encoding of a text. -/
def formEncode (text : String) : String :=
  String.ofList ((encodeUtf8 text.toList).flatMap formByte)

end FacetedQuery.Text
