/-!
# Host addresses

The textual form of an address of version 6: eight groups of up to four hexadecimal digits, of
which one run of zero groups may be left out and the last two may be written as an address of
version 4.
-/

namespace FacetedQuery.Rdf.HostAddress

def isHexDigit (character : Char) : Bool :=
  character.isDigit || ('a' ≤ character && character ≤ 'f') ||
    ('A' ≤ character && character ≤ 'F')

/-- Reads a group of one to four hexadecimal digits; a longer row is no group. -/
def readGroup? (text : List Char) : Option (List Char) :=
  let row := text.takeWhile isHexDigit
  if 1 ≤ row.length && row.length ≤ 4 then some (text.dropWhile isHexDigit) else none

/-- A number of up to three digits below 256 without a leading zero. -/
def isOctet (row : List Char) : Bool :=
  match row with
  | [] => false
  | ['0'] => true
  | '0' :: _ => false
  | _ =>
    row.length ≤ 3 &&
      row.foldl (fun total digit => total * 10 + (digit.toNat - '0'.toNat)) 0 < 256

/-- Reads an octet. -/
def readOctet? (text : List Char) : Option (List Char) :=
  if isOctet (text.takeWhile Char.isDigit) then some (text.dropWhile Char.isDigit) else none

/-- Reads a number of octets with points between them. -/
def readOctets? : Nat → List Char → Option (List Char)
  | 0, text => some text
  | 1, text => readOctet? text
  | count + 2, text =>
    match readOctet? text with
    | some ('.' :: rest) => readOctets? (count + 1) rest
    | _ => none

/-- What a run of groups amounts to: how many groups it fills, whether an address of version 4
ends it, and what follows it. -/
structure GroupRun where
  count : Nat
  endsInOctets : Bool
  rest : List Char

/-- Reads as many groups as there are, at most `limit`, with colons between them. -/
def readGroups : (limit : Nat) → (first : Bool) → List Char → GroupRun
  | 0, _, text => ⟨0, false, text⟩
  | limit + 1, first, text =>
    let body? := match first, text with
      | true, _ => some text
      | false, ':' :: rest => some rest
      | false, _ => none
    match body? with
    | none => ⟨0, false, text⟩
    | some body =>
      match if limit = 0 then none else readOctets? 4 body with
      | some rest => ⟨2, true, rest⟩
      | none =>
        match readGroup? body with
        | none => ⟨0, false, text⟩
        | some rest =>
          let run := readGroups limit false rest
          { run with count := run.count + 1 }

/-- Whether a text is an address of version 6. -/
def isVersion6 (text : List Char) : Bool :=
  let head := readGroups 8 true text
  if head.count == 8 then head.rest.isEmpty
  else if head.endsInOctets then false
  else
    match head.rest with
    | ':' :: ':' :: rest => (readGroups (7 - head.count) true rest).rest.isEmpty
    | _ => false

end FacetedQuery.Rdf.HostAddress
