import FacetedQuery.Rdf.Iri
import FacetedQuery.Rdf.LanguageTag
import FacetedQuery.Sparql.Reader

/-!
# Names in queries

The declarations at the start of a query and what the names behind them stand for.  Every name of
a valid query is an absolute IRI: an IRI in brackets, if need be relative to the declared base, or
a declared prefix followed by a local name.
-/

namespace FacetedQuery.Sparql

/-- The declarations of a query; a later one of a prefix stands before an earlier one. -/
structure Prologue where
  /-- The scheme of the declared base. -/
  base : Option (List Char)
  prefixes : List (String × List Char)

namespace Prologue

def empty : Prologue :=
  ⟨none, []⟩

def isAbsolute (text : List Char) : Bool :=
  (Rdf.Iri.check text).isOk

/-- Whether a text refers to something relative to any base. -/
def isRelative (text : List Char) : Bool :=
  text.head? != some ':' && (Rdf.Iri.readRelative text).isOk

/-- An IRI up to the colon of its scheme. -/
def scheme (text : List Char) : List Char :=
  text.takeWhile (· != ':') ++ [':']

/-- An absolute IRI for a text in angle brackets.  What is relative is completed no further than
its validity needs. -/
def resolve? (prologue : Prologue) (text : List Char) : Option (List Char) :=
  match Rdf.Iri.afterScheme? text, prologue.base with
  | none, some base => if isRelative text then some (base ++ text) else none
  | _, _ => if isAbsolute text then some text else none

/-- Whether a name stands for an absolute IRI. -/
def accepts (prologue : Prologue) : IriName → Bool
  | .iri text => (prologue.resolve? text.toList).isSome
  | .prefixed space localName =>
    match prologue.prefixes.lookup space with
    | some start => isAbsolute (start ++ localName.toList)
    | none => false

/-- Whether a token holds no name or tag that means nothing. -/
def acceptsToken (prologue : Prologue) : Token → Bool
  | .name value => prologue.accepts value
  | .language tag => Rdf.LanguageTag.accepts tag
  | _ => true

open Reader in
/-- Reads a declaration. -/
def declaration (prologue : Prologue) : Reader Prologue :=
  (do
    word "BASE"
    let base ← reference
    return { prologue with base := some (scheme base) }) <|>
  (do
    word "PREFIX"
    let space ← token fun
      | .name (.prefixed space "") => some space
      | _ => none
    let start ← reference
    return { prologue with prefixes := (space, start) :: prologue.prefixes })
where
  /-- Reads an IRI in angle brackets. -/
  reference : Reader (List Char) :=
    token fun
      | .name (.iri text) => prologue.resolve? text.toList
      | _ => none

/-- Reads at most `limit` declarations, as many as there are. -/
def readWithin (limit : Nat) (prologue : Prologue) (tokens : List Token) :
    Prologue × List Token :=
  match limit with
  | 0 => (prologue, tokens)
  | limit + 1 =>
    match declaration prologue tokens with
    | some (longer, rest) => readWithin limit longer rest
    | none => (prologue, tokens)

/-- Reads the declarations at the start of a query. -/
def read (tokens : List Token) : Prologue × List Token :=
  readWithin tokens.length empty tokens

end Prologue

end FacetedQuery.Sparql
