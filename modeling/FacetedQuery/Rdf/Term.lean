import FacetedQuery.Decimal.Notation
import FacetedQuery.Rdf.Iri
import FacetedQuery.Rdf.LanguageTag
import FacetedQuery.Rdf.Name
import FacetedQuery.Text.Form
import FacetedQuery.Text.Lowercase

/-!
# RDF terms

IRIs, literals and blank nodes, the form in which queries and logs show them, and their lexical
values.
-/

namespace FacetedQuery.Rdf

/-- The IRI of the datatype of plain literals. -/
def xsdString : Iri :=
  ⟨"http://www.w3.org/2001/XMLSchema#string", by decide +kernel⟩

def xsdDouble : Iri :=
  ⟨"http://www.w3.org/2001/XMLSchema#double", by decide +kernel⟩

def xsdDate : Iri :=
  ⟨"http://www.w3.org/2001/XMLSchema#date", by decide +kernel⟩

/-- The IRI of the datatype of literals with a language. -/
def langString : Iri :=
  ⟨"http://www.w3.org/1999/02/22-rdf-syntax-ns#langString", by decide +kernel⟩

/-- What a literal says beside its value. -/
inductive LiteralKind where
  | plain
  | tagged (language : String)
  | typed (datatype : Iri)
deriving DecidableEq

/-- A literal: a text with a language, a datatype or neither. -/
structure Literal where
  value : String
  kind : LiteralKind
deriving DecidableEq

namespace Literal

def plain (value : String) : Literal :=
  ⟨value, .plain⟩

/-- A literal with a datatype; the datatype of plain literals is left out. -/
def typed (value : String) (datatype : Iri) : Literal :=
  if datatype = xsdString then plain value else ⟨value, .typed datatype⟩

/-- A literal with a language, which is kept in lowercase. -/
def tagged? (value : String) (language : String) : Option Literal :=
  if LanguageTag.accepts language then some ⟨value, .tagged (Text.asciiLowercase language)⟩
  else none

/-- A number as a literal. -/
def double (value : Float) : Literal :=
  typed (Decimal.plain value) xsdDouble

/-- A character as it stands between the quotes of a literal. -/
def escapeChar (character : Char) : List Char :=
  if character == '\x08' then ['\\', 'b']
  else if character == '\t' then ['\\', 't']
  else if character == '\n' then ['\\', 'n']
  else if character == '\x0c' then ['\\', 'f']
  else if character == '\r' then ['\\', 'r']
  else if character == '"' then ['\\', '"']
  else if character == '\\' then ['\\', '\\']
  else if character.toNat < 0x20 || character.toNat == 0x7F then
    ['\\', 'u', '0', '0', Text.hexDigit (character.toNat / 16),
      Text.hexDigit (character.toNat % 16)]
  else [character]

/-- A text in quotes. -/
def quote (value : String) : String :=
  "\"" ++ String.ofList (value.toList.flatMap escapeChar) ++ "\""

def render (literal : Literal) : String :=
  match literal.kind with
  | .plain => quote literal.value
  | .tagged language => quote literal.value ++ "@" ++ language
  | .typed datatype => quote literal.value ++ "^^" ++ datatype.render

end Literal

/-- A blank node by its label. -/
structure BlankNode where
  label : String
  wellFormed : Name.isLabel label.toList = true
deriving DecidableEq

namespace BlankNode

def ofLabel? (label : String) : Option BlankNode :=
  if wellFormed : Name.isLabel label.toList = true then some ⟨label, wellFormed⟩ else none

def render (node : BlankNode) : String :=
  "_:" ++ node.label

end BlankNode

/-- A term of a solution. -/
inductive Term where
  | iri (value : Iri)
  | literal (value : Literal)
  | blank (node : BlankNode)
deriving DecidableEq

namespace Term

def render : Term → String
  | .iri value => value.render
  | .literal value => value.render
  | .blank node => node.render

/-- Removes every mark of a blank node at the start of a text. -/
def dropBlankMarks : List Char → List Char
  | '_' :: ':' :: rest => dropBlankMarks rest
  | text => text

/-- The lexical value of a term: the IRI, the text of a literal, or the label of a blank node. -/
def value : Term → String
  | .iri found => found.text
  | .literal found => found.value
  | .blank node => String.ofList (dropBlankMarks node.render.toList)

end Term

end FacetedQuery.Rdf
