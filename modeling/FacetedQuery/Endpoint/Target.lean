import FacetedQuery.Text.Form

/-!
# Request targets

The path and the query of an address as they are sent: without fragment and dot segments, and with
percent escapes for what may not stand there.
-/

namespace FacetedQuery.Endpoint

/-- The percent escapes of the bytes of a character. -/
def percentEncode (character : Char) : List Char :=
  (String.utf8EncodeChar character).flatMap fun byte =>
    ['%', Text.hexDigit (byte.toNat / 16), Text.hexDigit (byte.toNat % 16)]

/-- The characters that have to be escaped in every part. -/
def isForbidden (character : Char) : Bool :=
  character.toNat ≤ 0x20 || 0x7F ≤ character.toNat || character == '"' || character == '#' ||
    character == '<' || character == '>'

def escapeInPath (character : Char) : List Char :=
  if isForbidden character || character == '\x60' || character == '\x7b' ||
      character == '\x7d' then percentEncode character
  else [character]

def escapeInQuery (character : Char) : List Char :=
  if isForbidden character || character == '\'' then percentEncode character else [character]

/-- The segments of a path between its slashes, of which a backslash is one too. -/
def segments : List Char → List (List Char)
  | [] => [[]]
  | character :: rest =>
    if character == '/' || character == '\\' then [] :: segments rest
    else
      match segments rest with
      | [] => [[character]]
      | segment :: others => (character :: segment) :: others

/-- A segment with the escapes of its points undone. -/
def plainDots : List Char → List Char
  | '%' :: '2' :: mark :: rest =>
    if mark == 'e' || mark == 'E' then '.' :: plainDots rest
    else '%' :: '2' :: plainDots (mark :: rest)
  | character :: rest => character :: plainDots rest
  | [] => []
termination_by segment => segment.length
decreasing_by all_goals (simp only [List.length_cons]; omega)

/-- Follows segments from those that were passed, which are given in reverse. -/
def followDots (passed : List (List Char)) : List (List Char) → List (List Char)
  | [] => passed.reverse
  | segment :: rest =>
    if plainDots segment = ['.'] then
      if rest.isEmpty then ([] :: passed).reverse else followDots passed rest
    else if plainDots segment = ['.', '.'] then
      if rest.isEmpty then ([] :: passed.drop 1).reverse else followDots (passed.drop 1) rest
    else followDots (segment :: passed) rest

/-- The path that is sent for the path of an address. -/
def sentPath (path : List Char) : List Char :=
  let parts := match segments path with
    | [] :: first :: rest => first :: rest
    | parts => parts
  (followDots [] parts).flatMap fun segment => '/' :: segment.flatMap escapeInPath

/-- An address without what is never sent: line breaks and tabs, blanks at the end, the
fragment. -/
def stripped (path : List Char) : List Char :=
  let shown := path.filter fun character =>
    character != '\t' && character != '\n' && character != '\r'
  let content := (shown.reverse.dropWhile (·.toNat ≤ 0x20)).reverse
  content.takeWhile (· != '#')

/-- The request target for what follows the host in an address. -/
def target (address : String) : String :=
  let content := stripped address.toList
  let path := sentPath (content.takeWhile (· != '?'))
  String.ofList <|
    match content.dropWhile (· != '?') with
    | [] => path
    | _ :: query => path ++ '?' :: query.flatMap escapeInQuery

end FacetedQuery.Endpoint
