/-!
# Language tags

The well-formed language tags: a language, extended languages, a script, a region, variants,
extensions and a private part in this order, or one of the tags registered before this form.
-/

namespace FacetedQuery.Rdf.LanguageTag

/-- The irregular tags that remain registered. -/
def grandfathered : List String :=
  ["art-lojban", "cel-gaulish", "en-gb-oed", "i-ami", "i-bnn", "i-default", "i-enochian", "i-hak",
    "i-klingon", "i-lux", "i-mingo", "i-navajo", "i-pwn", "i-tao", "i-tay", "i-tsu", "no-bok",
    "no-nyn", "sgn-be-fr", "sgn-be-nl", "sgn-ch-de", "zh-guoyu", "zh-hakka", "zh-min",
    "zh-min-nan", "zh-xiang"]

/-- Where in a tag the next part stands. -/
inductive Place where
  | start
  | afterLanguage
  | afterExtension
  | afterScript
  | afterRegion
  | inExtension (expected : Bool)
  | inPrivate (expected : Bool)
deriving DecidableEq

/-- Splits a text at every hyphen. -/
def parts : List Char → List (List Char)
  | [] => [[]]
  | '-' :: rest => [] :: parts rest
  | character :: rest =>
    match parts rest with
    | [] => [[character]]
    | part :: others => (character :: part) :: others

def isAlphabetic (part : List Char) : Bool :=
  part.all Char.isAlpha

def isAlphanumeric (part : List Char) : Bool :=
  part.all Char.isAlphanum

def isNumeric (part : List Char) : Bool :=
  part.all Char.isDigit

def startsAlphabetic (part : List Char) : Bool :=
  isAlphabetic (part.take 1)

/-- The place after a part behind the language, if the part may stand there. -/
def nextPlace? (place : Place) (extended : Nat) (part : List Char) : Option Place :=
  let early := place == .afterLanguage || place == .afterExtension
  let size := part.length
  if place == .afterLanguage && size == 3 && isAlphabetic part then
    if extended < 3 then some .afterLanguage else none
  else if early && size == 4 && isAlphabetic part then some .afterScript
  else if (early || place == .afterScript) &&
      ((size == 2 && isAlphabetic part) || (size == 3 && isNumeric part)) then
    some .afterRegion
  else if (early || place == .afterScript || place == .afterRegion) && isAlphanumeric part &&
      ((5 ≤ size && startsAlphabetic part) || (4 ≤ size && isNumeric (part.take 1))) then
    some .afterRegion
  else none

/-- Whether the parts from a place on complete a tag; `extended` counts the extended languages. -/
def acceptsFrom (place : Place) (extended : Nat) : List (List Char) → Bool
  | [] =>
    match place with
    | .inExtension expected => !expected
    | .inPrivate expected => !expected
    | _ => true
  | part :: rest =>
    if part.isEmpty || 8 < part.length then false
    else
      match place with
      | .start =>
        if part.length < 2 || !isAlphabetic part then false
        else if part.length < 4 then acceptsFrom .afterLanguage extended rest
        else acceptsFrom .afterExtension extended rest
      | .inPrivate _ => isAlphanumeric part && acceptsFrom (.inPrivate false) extended rest
      | place =>
        if part.length == 1 && isAlphanumeric part then
          if place == .inExtension true then false
          else if part == ['x'] || part == ['X'] then
            acceptsFrom (.inPrivate true) extended rest
          else acceptsFrom (.inExtension true) extended rest
        else
          match place with
          | .inExtension _ => isAlphanumeric part && acceptsFrom (.inExtension false) extended rest
          | place =>
            match nextPlace? place extended part with
            | some next => acceptsFrom next (extended + 1) rest
            | none => false

/-- Whether a text is a well-formed language tag. -/
def accepts (text : String) : Bool :=
  let tag := text.toList
  if grandfathered.contains (String.ofList (tag.map Char.toLower)) then true
  else
    match tag with
    | 'x' :: '-' :: rest => !rest.isEmpty && rest.all fun c => c.isAlphanum || c == '-'
    | 'X' :: '-' :: rest => !rest.isEmpty && rest.all fun c => c.isAlphanum || c == '-'
    | _ => acceptsFrom .start 0 (parts tag)

end FacetedQuery.Rdf.LanguageTag
