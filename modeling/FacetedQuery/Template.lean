import FacetedQuery.Fault
import FacetedQuery.Text.Brace

/-!
# Templates

Query texts with placeholders.  Filling replaces every occurrence of one placeholder; further lines
of a value are indented like the placeholder if nothing but white space stands before it on its
line.  A finished template holds no placeholder and no white space at the end of a line.
-/

namespace FacetedQuery

inductive Placeholder where
  | filter
  | facetClass
  | resultSetProperties
  | properties
  | orderByAggregate
  | orderByTriple
  | orderBy
  | page
  | id
  | relatedInstances
  | idSet
  | periods
deriving DecidableEq

namespace Placeholder

/-- The name of a placeholder as it stands between angle brackets. -/
def name : Placeholder → String
  | .filter => "FILTER"
  | .facetClass => "FACET_CLASS"
  | .resultSetProperties => "RESULT_SET_PROPERTIES"
  | .properties => "PROPERTIES"
  | .orderByAggregate => "ORDER_BY_AGGREGATE"
  | .orderByTriple => "ORDER_BY_TRIPLE"
  | .orderBy => "ORDER_BY"
  | .page => "PAGE"
  | .id => "ID"
  | .relatedInstances => "RELATED_INSTANCES"
  | .idSet => "ID_SET"
  | .periods => "PERIODS"

def token (placeholder : Placeholder) : String :=
  "<" ++ placeholder.name ++ ">"

end Placeholder

/-- A template that is being filled. -/
structure Template where
  /-- The name by which faults refer to the template. -/
  name : String
  text : List Char
deriving DecidableEq

namespace Template

/-- The template of a text, whose empty lines at the start are dropped. -/
def ofText (name text : String) : Template :=
  ⟨name, text.toList.dropWhile (· == '\n')⟩

/-- The unfinished line at the end of a text, in reverse, continued by more text. -/
def continueLine (line : List Char) (text : List Char) : List Char :=
  text.foldl (fun current character => if character == '\n' then [] else character :: current) line

/-- Puts an indentation behind every line feed. -/
def indent (indentation value : List Char) : List Char :=
  value.flatMap fun character =>
    if character == '\n' then '\n' :: indentation else [character]

/-- What a value becomes behind the start of a line, which is given in reverse. -/
def inserted (line value : List Char) : List Char :=
  if line.all Text.isBlank then indent line.reverse value else value

/-- Replaces every occurrence of a token.  The first characters to be passed over belong to a token
that was replaced; `line` is the line so far, in reverse. -/
def replace (token value : List Char) (line : List Char) : Nat → List Char → List Char
  | _, [] => []
  | passed + 1, _ :: rest => replace token value line passed rest
  | 0, character :: rest =>
    if token.isPrefixOf (character :: rest) then
      let piece := inserted line value
      piece ++ replace token value (continueLine line piece) (token.length - 1) rest
    else
      character :: replace token value (continueLine line [character]) 0 rest

/-- Replaces every occurrence of a placeholder by a value. -/
def fill (template : Template) (placeholder : Placeholder) (value : String) : Template :=
  { template with text := replace placeholder.token.toList value.toList [] 0 template.text }

def isNameChar (character : Char) : Bool :=
  character.isUpper || character == '_'

/-- The name in angle brackets at the start of a text, if it is one of capital letters. -/
def placeholderAt? (text : List Char) : Option (List Char) :=
  match text with
  | '<' :: rest =>
    match rest.takeWhile isNameChar, rest.dropWhile isNameChar with
    | first :: name, '>' :: _ => if first.isUpper then some (first :: name) else none
    | _, _ => none
  | _ => none

/-- The first placeholder of a text. -/
def firstPlaceholder? : List Char → Option (List Char)
  | [] => none
  | character :: rest =>
    match placeholderAt? (character :: rest) with
    | some name => some name
    | none => firstPlaceholder? rest

/-- The text with the white space at the ends of its lines removed. -/
def stripLines (text : List Char) : List Char :=
  Text.joinChars ['\n'] ((Text.lines text).map Text.trimEnd)

/-- The text of a template in which no placeholder is left. -/
def finish (template : Template) : Except ConfigurationFault String :=
  match firstPlaceholder? template.text with
  | some name =>
    .error (.unresolvedPlaceholder template.name ("<" ++ String.ofList name ++ ">"))
  | none => .ok (String.ofList (stripLines template.text))

end Template

end FacetedQuery
