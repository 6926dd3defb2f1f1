import FacetedQuery.Rdf.HostAddress

/-!
# IRIs

Absolute IRIs as texts.  A text is read from left to right, and the first character that fits no
part of an IRI is the fault that is reported.  A text without a scheme is read as a relative
reference first, whose own faults win over the missing scheme.
-/

namespace FacetedQuery.Rdf

/-- Why a text is not an absolute IRI. -/
inductive IriFault where
  | noScheme
  | codePoint (found : Char)
  | percentEncoding (found : List Char)
  | hostCharacter (found : Char)
  | portCharacter (found : Char)
  | hostAddress
deriving DecidableEq, Repr

def IriFault.message : IriFault → String
  | .noScheme => "No scheme found in an absolute IRI"
  | .codePoint found => "Invalid IRI code point '" ++ String.singleton found ++ "'"
  | .percentEncoding found => "Invalid IRI percent encoding '" ++ String.ofList found ++ "'"
  | .hostCharacter found => "Invalid character '" ++ String.singleton found ++ "' in host"
  | .portCharacter found => "Invalid character '" ++ String.singleton found ++ "'"
  | .hostAddress => "Invalid host IP (invalid IPv6 address syntax)"

namespace Iri

/-- The characters that are allowed in every part of an IRI. -/
def isPlain (character : Char) : Bool :=
  let code := character.toNat
  character.isAlphanum || "!$&'()*+,-.;=_~".toList.contains character ||
    (0xA0 ≤ code && code ≤ 0xD7FF) || (0xF900 ≤ code && code ≤ 0xFDCF) ||
    (0xFDF0 ≤ code && code ≤ 0xFFEF) ||
    (0x10000 ≤ code && code ≤ 0xDFFFD && code % 0x10000 ≤ 0xFFFD) ||
    (0xE1000 ≤ code && code ≤ 0xEFFFD)

/-- The private use characters, which only a query may hold. -/
def isPrivate (character : Char) : Bool :=
  let code := character.toNat
  (0xE000 ≤ code && code ≤ 0xF8FF) || (0xF0000 ≤ code && code ≤ 0xFFFFD) ||
    (0x100000 ≤ code && code ≤ 0x10FFFD)

def isPathChar (character : Char) : Bool :=
  isPlain character || character == ':' || character == '@' || character == '/'

def isQueryChar (character : Char) : Bool :=
  isPathChar character || character == '?' || isPrivate character

def isFragmentChar (character : Char) : Bool :=
  isPathChar character || character == '?'

/-- Characters of a scheme behind its first letter. -/
def isSchemeChar (character : Char) : Bool :=
  character.isAlphanum || character == '+' || character == '-' || character == '.'

/-- Reads characters of one part of an IRI, in which percent escapes may stand, up to the first
character that ends the part.  The answer is what follows. -/
def readPart (allowed ends : Char → Bool) : List Char → Except IriFault (List Char)
  | [] => .ok []
  | '%' :: rest =>
    match rest with
    | first :: second :: after =>
      if HostAddress.isHexDigit first && HostAddress.isHexDigit second then
        readPart allowed ends after
      else .error (.percentEncoding ['%', first, second])
    | _ => .error (.percentEncoding ('%' :: rest))
  | character :: rest =>
    if ends character then .ok (character :: rest)
    else if allowed character then readPart allowed ends rest
    else .error (.codePoint character)

def endsNever (_ : Char) : Bool :=
  false

def endsHierarchy (character : Char) : Bool :=
  character == '/' || character == '?' || character == '#'

/-- Reads a fragment up to the end. -/
def readFragment (text : List Char) : Except IriFault Unit := do
  let _ ← readPart isFragmentChar endsNever text
  return ()

/-- Reads a query and the fragment behind it. -/
def readQuery (text : List Char) : Except IriFault Unit := do
  match ← readPart isQueryChar (· == '#') text with
  | [] => return ()
  | _ :: rest => readFragment rest

/-- Reads a path and what follows it. -/
def readPath (text : List Char) : Except IriFault Unit := do
  match ← readPart isPathChar (fun character => character == '?' || character == '#') text with
  | [] => return ()
  | '?' :: rest => readQuery rest
  | _ :: rest => readFragment rest

/-- Reads a port and the path behind it. -/
def readPort : List Char → Except IriFault Unit
  | [] => .ok ()
  | character :: rest =>
    if character.isDigit then readPort rest
    else if endsHierarchy character then readPath (character :: rest)
    else .error (.portCharacter character)

/-- Checks an address of a later version behind its letter. -/
def checkFutureAddress (text : List Char) : Except IriFault Unit := do
  let version := text.takeWhile HostAddress.isHexDigit
  match text.dropWhile HostAddress.isHexDigit with
  | [] => .error (.hostCharacter ']')
  | '.' :: rest =>
    match version, rest with
    | [], [] => .error (.hostCharacter ']')
    | [], character :: _ => .error (.hostCharacter character)
    | _, [] => .error (.hostCharacter ']')
    | _, _ =>
      match rest.find? fun character => !(isPlain character || character == ':') with
      | some character => .error (.hostCharacter character)
      | none => .ok ()
  | character :: _ => .error (.hostCharacter character)

/-- Checks what stands between the brackets of a host. -/
def checkAddress (text : List Char) : Except IriFault Unit :=
  match text with
  | 'v' :: rest => checkFutureAddress rest
  | 'V' :: rest => checkFutureAddress rest
  | _ => if HostAddress.isVersion6 text then .ok () else .error .hostAddress

/-- Reads what follows the closing bracket of a host. -/
def readAfterAddress : List Char → Except IriFault Unit
  | [] => .ok ()
  | ':' :: rest => readPort rest
  | character :: rest =>
    if endsHierarchy character then readPath (character :: rest)
    else .error (.hostCharacter character)

/-- Reads a host and what follows it. -/
def readHost (text : List Char) : Except IriFault Unit := do
  match text with
  | '[' :: rest =>
    match rest.dropWhile (· != ']') with
    | [] => .error (.hostCharacter '[')
    | _ :: after =>
      checkAddress (rest.takeWhile (· != ']'))
      readAfterAddress after
  | _ =>
    match ← readPart isPlain (fun character => character == ':' || endsHierarchy character)
      text with
    | [] => return ()
    | ':' :: rest => readPort rest
    | rest => readPath rest

/-- Reads an authority and what follows it.  Up to an at sign it is the name of a user. -/
def readAuthority (text : List Char) : Except IriFault Unit := do
  match ← readPart (fun character => isPlain character || character == ':')
      (fun character => character == '@' || character == '[' || endsHierarchy character) text with
  | '@' :: rest => readHost rest
  | _ => readHost text

/-- Reads what follows a scheme. -/
def readHierarchy (text : List Char) : Except IriFault Unit :=
  match text with
  | '/' :: '/' :: rest => readAuthority rest
  | _ => readPath text

/-- Reads a reference without a scheme, in whose first segment no colon is allowed. -/
def readRelative (text : List Char) : Except IriFault Unit := do
  match text with
  | '/' :: _ => readHierarchy text
  | _ =>
    readPath (← readPart (fun character => isPlain character || character == '@')
      endsHierarchy text)

/-- What follows the scheme and its colon, if a text has a scheme. -/
def afterScheme? (text : List Char) : Option (List Char) :=
  match text with
  | [] => none
  | first :: _ =>
    if first.isAlpha then
      match text.dropWhile isSchemeChar with
      | ':' :: rest => some rest
      | _ => none
    else none

/-- Checks that a text is an absolute IRI. -/
def check (text : List Char) : Except IriFault Unit := do
  match afterScheme? text with
  | some rest => readHierarchy rest
  | none =>
    match text with
    | ':' :: _ => .error .noScheme
    | _ =>
      readRelative text
      .error .noScheme

/-- Whether a text is an absolute IRI. -/
def accepts (text : String) : Bool :=
  match check text.toList with
  | .ok _ => true
  | .error _ => false

end Iri

/-- An absolute IRI.  It is never normalised. -/
structure Iri where
  text : String
  wellFormed : Iri.accepts text = true
deriving DecidableEq

namespace Iri

/-- Reads a text as an absolute IRI. -/
def ofText (text : String) : Except IriFault Iri :=
  if wellFormed : accepts text = true then .ok ⟨text, wellFormed⟩
  else
    match check text.toList with
    | .error fault => .error fault
    | .ok _ => .error .noScheme

def ofText? (text : String) : Option Iri :=
  (ofText text).toOption

/-- An IRI between angle brackets. -/
def render (iri : Iri) : String :=
  "<" ++ iri.text ++ ">"

end Iri

end FacetedQuery.Rdf
