import FacetedQuery.Fault
import FacetedQuery.Json.Lexeme
import FacetedQuery.Solution
import FacetedQuery.Text.Utf8

/-!
# Results documents

The documents in which endpoints return solutions.  A document is read in its order and no further
than it has to be.  If its columns come before its rows, the rows are taken as they come and
nothing may follow them; if the rows come first, they are kept until the columns are known, and
the rest of the document is not looked at.  An answer of yes or no is told at once.
-/

namespace FacetedQuery

open Json (Lexeme)
open Rdf (BlankNode Iri Literal Term Variable)

/-- Why a document yields no solutions. -/
inductive ResultsFault where
  | malformed
  /-- The document answers a question of yes or no. -/
  | notSolutions
deriving DecidableEq

/-- The parts of a term; of a repeated part the last one counts. -/
structure TermParts where
  kind : Option String
  value : Option String
  language : Option String
  datatype : Option Iri
deriving DecidableEq

namespace TermParts

def empty : TermParts :=
  ⟨none, none, none, none⟩

/-- Adds a part. -/
def add? (parts : TermParts) (key content : String) : Option TermParts :=
  if key == "type" then some { parts with kind := some content }
  else if key == "value" then some { parts with value := some content }
  else if key == "xml:lang" then some { parts with language := some content }
  else if key == "datatype" then
    (Iri.ofText? content).map fun iri => { parts with datatype := some iri }
  else none

/-- A literal; one with a language has no datatype but that of all such literals. -/
def literal? (parts : TermParts) (value : String) : Option Literal :=
  match parts.language, parts.datatype with
  | none, none => some (.plain value)
  | none, some datatype => some (.typed value datatype)
  | some language, none => Literal.tagged? value language
  | some language, some datatype =>
    if datatype = Rdf.langString then Literal.tagged? value language else none

/-- The term of all parts. -/
def term? (parts : TermParts) : Option Term := do
  let kind ← parts.kind
  let value ← parts.value
  if kind == "uri" then (Iri.ofText? value).map .iri
  else if kind == "bnode" then (BlankNode.ofLabel? value).map .blank
  else if kind == "literal" || kind == "typed-literal" then (parts.literal? value).map .literal
  else none

end TermParts

/-- A row as it is written: a column may be repeated. -/
abbrev WrittenRow := List (String × Term)

/-- Objects in which unknown members are passed over. -/
inductive ResultsObject where
  | root
  | head
  | results
deriving DecidableEq

/-- Where in a document the next lexeme stands. -/
inductive ResultsPlace where
  | start
  | within (place : ResultsObject)
  | before (place : ResultsObject)
  | beforeColumns
  | columns
  | beforeLinks
  | links
  | beforeRows
  | rows
  | row (bound : WrittenRow)
  | beforeTerm (bound : WrittenRow) (column : String)
  | term (bound : WrittenRow) (column : String) (parts : TermParts)
  | termPart (bound : WrittenRow) (column : String) (parts : TermParts) (key : String)
  | beforeAnswer
  | passing (depth : Nat) (back : ResultsObject)
  /-- Nothing but closing braces may follow. -/
  | closing
deriving DecidableEq

/-- What has been read of a document. -/
structure Progress where
  place : ResultsPlace
  /-- The columns, if there was a list of them. -/
  columns : Option (List Variable)
  /-- The rows, if their list has begun. -/
  rows : Option (List WrittenRow)
deriving DecidableEq

namespace Progress

def start : Progress :=
  ⟨.start, none, none⟩

def columnNames (progress : Progress) : List String :=
  (progress.columns.getD []).map Variable.name

/-- The outcome of a step: to go on, or to be done with the columns and rows at hand. -/
inductive Step where
  | next (progress : Progress)
  | done (progress : Progress)

open Step

def malformed : Except ResultsFault Step :=
  .error .malformed

/-- Goes on at a place. -/
def goTo (progress : Progress) (place : ResultsPlace) : Except ResultsFault Step :=
  .ok (next { progress with place })

/-- Goes on at a place if the lexeme is the expected one. -/
def expect (progress : Progress) (expected found : Lexeme) (place : ResultsPlace) :
    Except ResultsFault Step :=
  if found = expected then progress.goTo place else malformed

/-- Enters a member of an object. -/
def enter (progress : Progress) (place : ResultsObject) (key : String) : Except ResultsFault Step :=
  progress.goTo <|
    match place, key with
    | .root, "head" => .before .head
    | .root, "results" => .before .results
    | .root, "boolean" => .beforeAnswer
    | .head, "vars" => .beforeColumns
    | .head, "links" => .beforeLinks
    | .results, "bindings" => .beforeRows
    | _, _ => .passing 0 place

/-- Leaves an object. -/
def leave (progress : Progress) (place : ResultsObject) : Except ResultsFault Step :=
  match place with
  | .root => malformed
  | .head => progress.goTo (.within .root)
  | .results => if progress.rows.isSome then progress.goTo (.within .root) else malformed

/-- Adds a column, which has to be new. -/
def addColumn (progress : Progress) (name : String) : Except ResultsFault Step :=
  match Variable.ofName? name with
  | none => malformed
  | some column =>
    let known := progress.columns.getD []
    if known.contains column then malformed
    else .ok (next { progress with columns := some (known ++ [column]) })

/-- Ends the list of columns.  With the rows at hand the document is read. -/
def endColumns (progress : Progress) : Except ResultsFault Step :=
  let known := { progress with columns := some (progress.columns.getD []), place := .within .head }
  .ok (if progress.rows.isSome then done known else next known)

/-- Begins the rows. -/
def beginRows (progress : Progress) : Except ResultsFault Step :=
  .ok (next { progress with rows := some (progress.rows.getD []), place := .rows })

/-- Ends the rows. -/
def endRows (progress : Progress) : Except ResultsFault Step :=
  progress.goTo (if progress.columns.isSome then .closing else .within .results)

def addRow (progress : Progress) (bound : WrittenRow) : Except ResultsFault Step :=
  .ok (next { progress with rows := some (progress.rows.getD [] ++ [bound]), place := .rows })

/-- Passes a lexeme over. -/
def pass (progress : Progress) (depth : Nat) (back : ResultsObject) (lexeme : Lexeme) :
    Except ResultsFault Step :=
  let after := match lexeme with
    | .openObject => depth + 1
    | .openArray => depth + 1
    | .closeObject => depth - 1
    | .closeArray => depth - 1
    | _ => depth
  progress.goTo (if after = 0 then .within back else .passing after back)

/-- Takes one lexeme. -/
def step (progress : Progress) (lexeme : Lexeme) : Except ResultsFault Step :=
  match progress.place, lexeme with
  | .start, found => progress.expect .openObject found (.within .root)
  | .within place, .key key => progress.enter place key
  | .within place, .closeObject => progress.leave place
  | .before place, found => progress.expect .openObject found (.within place)
  | .beforeColumns, found => progress.expect .openArray found .columns
  | .columns, .text name => progress.addColumn name
  | .columns, .closeArray => progress.endColumns
  | .beforeLinks, found => progress.expect .openArray found .links
  | .links, .text _ => progress.goTo .links
  | .links, .closeArray => progress.goTo (.within .head)
  | .beforeRows, .openArray => progress.beginRows
  | .rows, .openObject => progress.goTo (.row [])
  | .rows, .closeArray => progress.endRows
  | .row bound, .key column => progress.goTo (.beforeTerm bound column)
  | .row bound, .closeObject => progress.addRow bound
  | .beforeTerm bound column, found =>
    progress.expect .openObject found (.term bound column .empty)
  | .term bound column parts, .key key => progress.goTo (.termPart bound column parts key)
  | .term bound column parts, .closeObject =>
    match parts.term? with
    | some term => progress.goTo (.row (bound ++ [(column, term)]))
    | none => malformed
  | .termPart bound column parts key, .text content =>
    match parts.add? key content with
    | some parts => progress.goTo (.term bound column parts)
    | none => malformed
  | .beforeAnswer, .boolean _ => .error .notSolutions
  | .passing depth back, found => progress.pass depth back found
  | .closing, .closeObject => progress.goTo .closing
  | _, _ => malformed

/-- Takes lexemes to the end or until the document is read. -/
def run (isComplete : Bool) (progress : Progress) : List Lexeme → Except ResultsFault Progress
  | [] => if isComplete && progress.place == .closing then .ok progress else .error .malformed
  | lexeme :: rest => do
    match ← progress.step lexeme with
    | .next later => run isComplete later rest
    | .done later => .ok later

end Progress

/-- The row of a written row, all of whose columns have to be declared. -/
def solutionOf? (columns : List String) (bound : WrittenRow) : Option Solution :=
  if bound.all fun binding => columns.contains binding.1 then
    some ⟨columns.map fun column =>
      (column, (bound.reverse.find? (·.1 == column)).map (·.2))⟩
  else none

/-- The solutions of a document. -/
def readSolutions (document : List Char) : Except ResultsFault (List Solution) := do
  let walk := Json.walk document
  let progress ← Progress.start.run walk.isComplete walk.lexemes
  match (progress.rows.getD []).mapM (solutionOf? progress.columnNames) with
  | some solutions => .ok solutions
  | none => .error .malformed

/-- The characters of a document.  Bytes that spell no character become one that no document
holds. -/
def documentChars (bytes : List UInt8) : List Char :=
  (Text.decodeUtf8 (Text.dropByteOrderMark bytes)).map (·.getD '\x00')

/-- Reads the solutions of a document that an endpoint returned. -/
def readResults (endpoint : String) (document : List Char) :
    Except ExecutionFault (List Solution) :=
  match readSolutions document with
  | .ok solutions => .ok solutions
  | .error .malformed => .error (.parse endpoint)
  | .error .notSolutions => .error (.notSolutions endpoint)

end FacetedQuery
