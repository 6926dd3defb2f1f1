/-!
# UTF-8

Decoding of bytes.  Every character that a byte sequence spells is told from every stretch that
spells none: such a stretch is the longest start of a character that the next byte does not
continue, or a single byte that starts no character.
-/

namespace FacetedQuery.Text

/-- What a lead byte announces: its payload bits, the number of bytes that follow, and the range
in which the first of them has to lie. -/
structure LeadByte where
  payload : Nat
  following : Nat
  low : Nat
  high : Nat

/-- The lead bytes of characters beyond ASCII.  The bounds on the second byte exclude overlong
forms, surrogates and code points beyond the last. -/
def leadByte? (byte : Nat) : Option LeadByte :=
  if 0xC2 ≤ byte && byte ≤ 0xDF then some ⟨byte - 0xC0, 1, 0x80, 0xBF⟩
  else if byte == 0xE0 then some ⟨0, 2, 0xA0, 0xBF⟩
  else if byte == 0xED then some ⟨0xD, 2, 0x80, 0x9F⟩
  else if 0xE1 ≤ byte && byte ≤ 0xEF then some ⟨byte - 0xE0, 2, 0x80, 0xBF⟩
  else if byte == 0xF0 then some ⟨0, 3, 0x90, 0xBF⟩
  else if 0xF1 ≤ byte && byte ≤ 0xF3 then some ⟨byte - 0xF0, 3, 0x80, 0xBF⟩
  else if byte == 0xF4 then some ⟨4, 3, 0x80, 0x8F⟩
  else none

/-- Reads the bytes that continue a character, the first of them between the bounds.  The answer
has no value if one is missing; the rest then starts at the byte that does not fit. -/
def readContinuation (value : Nat) (count low high : Nat) (bytes : List UInt8) :
    Option Nat × List UInt8 :=
  match count, bytes with
  | 0, rest => (some value, rest)
  | _ + 1, [] => (none, [])
  | count + 1, byte :: rest =>
    if low ≤ byte.toNat && byte.toNat ≤ high then
      readContinuation (value * 64 + (byte.toNat - 0x80)) count 0x80 0xBF rest
    else (none, byte :: rest)

theorem length_readContinuation_le (value count low high : Nat) (bytes : List UInt8) :
    (readContinuation value count low high bytes).2.length ≤ bytes.length := by
  induction bytes generalizing value count low high with
  | nil => cases count <;> simp [readContinuation]
  | cons byte rest ih =>
    cases count with
    | zero => simp [readContinuation]
    | succ count =>
      simp only [readContinuation]
      split
      · exact Nat.le_succ_of_le (ih _ _ _ _)
      · simp

/-- The characters of a byte sequence, with `none` for every stretch that spells none. -/
def decodeUtf8 : List UInt8 → List (Option Char)
  | [] => []
  | byte :: rest =>
    if byte.toNat < 0x80 then
      some (Char.ofNat byte.toNat) :: decodeUtf8 rest
    else
      match leadByte? byte.toNat with
      | none => none :: decodeUtf8 rest
      | some lead =>
        let outcome := readContinuation lead.payload lead.following lead.low lead.high rest
        outcome.1.map Char.ofNat :: decodeUtf8 outcome.2
termination_by bytes => bytes.length
decreasing_by
  · simp
  · simp
  · exact Nat.lt_succ_of_le (length_readContinuation_le _ _ _ _ _)

/-- The bytes of the byte order mark in UTF-8. -/
def byteOrderMark : List UInt8 :=
  [0xEF, 0xBB, 0xBF]

/-- Drops a byte order mark at the start. -/
def dropByteOrderMark (bytes : List UInt8) : List UInt8 :=
  if byteOrderMark.isPrefixOf bytes then bytes.drop byteOrderMark.length else bytes

/-- The mark that stands in a text for bytes that spell no character. -/
def replacement : Char :=
  '\uFFFD'

/-- Pairs bytes up into units of 16 bits; an odd byte at the end makes no unit. -/
def units16 (bigEndian : Bool) : List UInt8 → List (Option Nat)
  | [] => []
  | [_] => [none]
  | first :: second :: rest =>
    some (if bigEndian then first.toNat * 256 + second.toNat
      else second.toNat * 256 + first.toNat) :: units16 bigEndian rest

/-- The characters that units of 16 bits spell, half a surrogate pair being replaced. -/
def decodeUnits16 : List (Option Nat) → List Char
  | [] => []
  | none :: rest => replacement :: decodeUnits16 rest
  | [some unit] =>
    if 0xD800 ≤ unit && unit ≤ 0xDFFF then [replacement] else [Char.ofNat unit]
  | some unit :: some next :: rest =>
    if 0xD800 ≤ unit && unit ≤ 0xDBFF then
      if 0xDC00 ≤ next && next ≤ 0xDFFF then
        Char.ofNat (0x10000 + (unit - 0xD800) * 0x400 + (next - 0xDC00)) :: decodeUnits16 rest
      else replacement :: decodeUnits16 (some next :: rest)
    else if 0xDC00 ≤ unit && unit ≤ 0xDFFF then
      replacement :: decodeUnits16 (some next :: rest)
    else Char.ofNat unit :: decodeUnits16 (some next :: rest)
  | some unit :: none :: rest =>
    (if 0xD800 ≤ unit && unit ≤ 0xDFFF then replacement else Char.ofNat unit) ::
      replacement :: decodeUnits16 rest

/-- Reads bytes as text whatever they hold: the byte order mark tells the encoding, which is UTF-8
without one, and what spells no character is replaced. -/
def decodeLossy (bytes : List UInt8) : List Char :=
  match bytes with
  | 0xFF :: 0xFE :: rest => decodeUnits16 (units16 false rest)
  | 0xFE :: 0xFF :: rest => decodeUnits16 (units16 true rest)
  | _ => (decodeUtf8 (dropByteOrderMark bytes)).map (·.getD replacement)

/-- The bytes of a text in UTF-8. -/
def encodeUtf8 (text : List Char) : List UInt8 :=
  text.flatMap String.utf8EncodeChar

/-- The longest start of a text that takes at most `limit` bytes of UTF-8. -/
def takeBytes (limit : Nat) : List Char → List Char
  | [] => []
  | character :: rest =>
    if character.utf8Size ≤ limit then
      character :: takeBytes (limit - character.utf8Size) rest
    else []

/-- Whether a byte goes on with a character that an earlier byte starts. -/
def continuesChar (byte : UInt8) : Bool :=
  0x80 ≤ byte.toNat && byte.toNat < 0xC0

/-- Whether a text of these bytes may be cut in front of the byte at an index: at its ends and where
a character starts. -/
def isCharBorder (bytes : List UInt8) (index : Nat) : Bool :=
  index == 0 ||
    match bytes[index]? with
    | some byte => !continuesChar byte
    | none => index == bytes.length

/-- The last border within a number of bytes, looked for from there to the start. -/
def lastCharBorder? (limit : Nat) (bytes : List UInt8) : Option Nat :=
  (List.range (limit + 1)).reverse.find? (isCharBorder bytes)

end FacetedQuery.Text
