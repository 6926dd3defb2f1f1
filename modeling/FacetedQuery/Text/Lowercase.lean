import FacetedQuery.Text.CaseTable

/-!
# Lowercase

Full Unicode lowercasing without a locale.  Every character has one image of its own, with two
exceptions: `İ` becomes two characters, and a capital sigma that ends a word becomes the final
form of the small letter.
-/

namespace FacetedQuery.Text

/-- Whether one of the inclusive ranges holds the code point. -/
def inRanges (ranges : List (Nat × Nat)) (code : Nat) : Bool :=
  ranges.any fun range => range.1 ≤ code && code ≤ range.2

def isCased (character : Char) : Bool :=
  inRanges casedRanges character.toNat

def isCaseIgnorable (character : Char) : Bool :=
  inRanges caseIgnorableRanges character.toNat

/-- The image of a code point under one row of `lowercaseRuns`. -/
def runImage? (code : Nat) (run : Nat × Nat × Nat × Nat) : Option Nat :=
  if run.1 ≤ code && code ≤ run.2.1 && (code - run.1) % run.2.2.1 == 0 then
    some (run.2.2.2 + (code - run.1))
  else none

/-- The lowercase of a character that stands in no special context. -/
def lowercaseChar (character : Char) : Char :=
  if character.toNat < 0x80 then character.toLower
  else
    match lowercaseRuns.findSome? (runImage? character.toNat) with
    | some image => Char.ofNat image
    | none => character

/-- Whether a cased character comes first once the case-ignorable ones are skipped. -/
def casedFirst (text : List Char) : Bool :=
  match text.dropWhile isCaseIgnorable with
  | [] => false
  | character :: _ => isCased character

/-- Lowercases a text; `preceded` says whether a cased character stands before it with nothing but
case-ignorable characters between. -/
def lowercaseFrom (preceded : Bool) : List Char → List Char
  | [] => []
  | character :: rest =>
    let after := if isCaseIgnorable character then preceded else isCased character
    if character == 'Σ' then
      (if preceded && !casedFirst rest then 'ς' else 'σ') :: lowercaseFrom after rest
    else if character == 'İ' then
      'i' :: '\u0307' :: lowercaseFrom after rest
    else
      lowercaseChar character :: lowercaseFrom after rest

/-- The lowercase of a text. -/
def lowercase (text : String) : String :=
  String.ofList (lowercaseFrom false text.toList)

/-- Lowercases the ASCII letters and keeps all else. -/
def asciiLowercase (text : String) : String :=
  String.ofList (text.toList.map Char.toLower)

end FacetedQuery.Text
