import FacetedQuery.Clause
import FacetedQuery.Proofs.Sparql.Spelling

/-!
# Pieces of clauses

The tokens of a clause in the order in which it is rendered.  Most are fixed by the shape of the
clause; the others hold an IRI or a text that was given from outside.
-/

namespace FacetedQuery.Clause

open Rdf (Iri Literal Variable)
open Sparql (Token Mark)

/-- A token of a clause. -/
inductive Piece where
  | fixed (token : Token)
  | iri (value : String)
  | text (value : String)
deriving DecidableEq

namespace Piece

def token : Piece → Token
  | .fixed token => token
  | .iri value => .name (.iri value)
  | .text value => .string value

/-- The value of a piece that was given from outside. -/
def value? : Piece → Option String
  | .fixed _ => none
  | .iri value => some value
  | .text value => some value

/-- A piece without the value that was given from outside. -/
def outline : Piece → Piece
  | .fixed token => .fixed token
  | .iri _ => .iri ""
  | .text _ => .text ""

def word (letters : String) : Piece :=
  .fixed (.word letters)

def mark (value : Mark) : Piece :=
  .fixed (.mark value)

def datatype (iri : Iri) : Piece :=
  .fixed (.name (.iri iri.text))

end Piece

/-- The tokens of the name of a variable behind its question mark. -/
def variablePieces (target : Variable) : List Piece :=
  (Token.nameTokens target.name.toList).map .fixed

/-- The tokens of a property path by itself. -/
def PropertyPath.tokens (path : PropertyPath) : List Token :=
  (Token.tokens? path.text.toList).getD []

def PropertyPath.pieces (path : PropertyPath) : List Piece :=
  path.tokens.map .fixed

def Node.pieces : Node → List Piece
  | .var target => variablePieces target
  | .iri value => [.iri value.text]

/-- The tokens of a literal; the language of a tagged one is a token of its own. -/
def literalPieces (literal : Literal) : List Piece :=
  .text literal.value ::
    match literal.kind with
    | .plain => []
    | .tagged language => [.fixed (.language language)]
    | .typed datatype => [.mark .doubleCaret, .datatype datatype]

namespace Expression

mutual

def pieces : Expression → List Piece
  | .var target => variablePieces target
  | .iri value => [.iri value.text]
  | .literal value => literalPieces value
  | .member value list =>
    value.pieces ++ [.word "IN", .mark .openParen] ++ listPieces list ++ [.mark .closeParen]
  | .conjunction left right =>
    .mark .openParen :: left.pieces ++ .mark .doubleAnd :: right.pieces ++ [.mark .closeParen]
  | .atLeast left right =>
    .mark .openParen :: left.pieces ++ .mark .greaterEqual :: right.pieces ++ [.mark .closeParen]
  | .atMost left right =>
    .mark .openParen :: left.pieces ++ .mark .lessEqual :: right.pieces ++ [.mark .closeParen]
  | .bound target =>
    .word "BOUND" :: .mark .openParen :: variablePieces target ++ [.mark .closeParen]
  | .call function arguments =>
    .word function.name :: .mark .openParen :: listPieces arguments ++ [.mark .closeParen]
  | .cast datatype value =>
    .datatype datatype :: .mark .openParen :: value.pieces ++ [.mark .closeParen]

def listPieces : List Expression → List Piece
  | [] => []
  | [expression] => expression.pieces
  | expression :: rest => expression.pieces ++ .mark .comma :: listPieces rest

end

end Expression

namespace Pattern

mutual

def pieces : Pattern → List Piece
  | .triple subject path object =>
    subject.pieces ++ path.pieces ++ object.pieces ++ [.mark .dot]
  | .values target items =>
    .word "VALUES" :: variablePieces target ++ .mark .openBrace ::
      items.map (fun item => .iri item.text) ++ [.mark .closeBrace]
  | .optional elements =>
    .word "OPTIONAL" :: .mark .openBrace :: listPieces elements ++ [.mark .closeBrace]
  | .filter condition =>
    .word "FILTER" :: .mark .openParen :: condition.pieces ++ [.mark .closeParen]

def listPieces : List Pattern → List Piece
  | [] => []
  | element :: rest => element.pieces ++ listPieces rest

end

end Pattern

end FacetedQuery.Clause
