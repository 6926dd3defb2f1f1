import FacetedQuery.Json.Reader

/-!
# Documents in order

The borders and leaves of a document in the order in which they are written.  Of a text that is no
document they are given up to the place where it breaks.
-/

namespace FacetedQuery.Json

/-- A border or a leaf of a document.  The value of a number is not looked at. -/
inductive Lexeme where
  | openObject
  | closeObject
  | openArray
  | closeArray
  | key (name : String)
  | text (content : String)
  | boolean (value : Bool)
  | number
  | null
deriving DecidableEq

/-- Lexemes, and the text that follows them unless it broke. -/
structure LexemeRun where
  lexemes : List Lexeme
  rest : Option (List Char)

namespace LexemeRun

/-- The run of a text that breaks at its start. -/
def broken : LexemeRun :=
  ⟨[], none⟩

/-- A lexeme before a run. -/
def after (first : Lexeme) (run : LexemeRun) : LexemeRun :=
  { run with lexemes := first :: run.lexemes }

/-- A run that goes on with what follows it. -/
def andThen (run : LexemeRun) (next : List Char → LexemeRun) : LexemeRun :=
  match run.rest with
  | none => run
  | some text =>
    let later := next text
    ⟨run.lexemes ++ later.lexemes, later.rest⟩

/-- A single leaf, if it was read. -/
def leaf (outcome : Option (Lexeme × List Char)) : LexemeRun :=
  match outcome with
  | some (lexeme, rest) => ⟨[lexeme], some rest⟩
  | none => broken

end LexemeRun

/-- Reads a string behind its quote; half a surrogate pair breaks it. -/
def readWholeString? (steps : Nat) (text : List Char) : Option (String × List Char) :=
  match readString? steps text with
  | some (some content, rest) => some (content, rest)
  | _ => none

/-- Reads a leaf at the start of a text. -/
def readLeaf? (steps : Nat) : List Char → Option (Lexeme × List Char)
  | [] => none
  | 'n' :: rest => (dropWord? "ull".toList rest).map fun after => (.null, after)
  | 't' :: rest => (dropWord? "rue".toList rest).map fun after => (.boolean true, after)
  | 'f' :: rest => (dropWord? "alse".toList rest).map fun after => (.boolean false, after)
  | '"' :: rest =>
    (readWholeString? steps rest).map fun result => (.text result.1, result.2)
  | start :: rest => (readNumeral? (start :: rest)).map fun result => (.number, result.2)

mutual

/-- The lexemes of the value at the start of a text.  Every call takes one of the given steps. -/
def valueLexemes : Nat → List Char → LexemeRun
  | 0, _ => .broken
  | steps + 1, text =>
    match skipSpace text with
    | '[' :: rest =>
      match skipSpace rest with
      | ']' :: after => ⟨[.openArray, .closeArray], some after⟩
      | _ => (itemLexemes steps rest).after .openArray
    | '{' :: rest =>
      match skipSpace rest with
      | '}' :: after => ⟨[.openObject, .closeObject], some after⟩
      | _ => (memberLexemes steps rest).after .openObject
    | start => .leaf (readLeaf? steps start)

/-- The lexemes of one or more items up to the closing bracket. -/
def itemLexemes : Nat → List Char → LexemeRun
  | 0, _ => .broken
  | steps + 1, text =>
    (valueLexemes steps text).andThen fun rest =>
      match skipSpace rest with
      | ']' :: after => ⟨[.closeArray], some after⟩
      | ',' :: after => itemLexemes steps after
      | _ => .broken

/-- The lexemes of one or more members up to the closing brace. -/
def memberLexemes : Nat → List Char → LexemeRun
  | 0, _ => .broken
  | steps + 1, text =>
    match skipSpace text with
    | '"' :: keyText =>
      match readWholeString? steps keyText with
      | none => .broken
      | some (key, afterKey) =>
        let value := match skipSpace afterKey with
          | ':' :: valueText => valueLexemes steps valueText
          | _ => .broken
        (value.andThen fun rest =>
          match skipSpace rest with
          | '}' :: after => ⟨[.closeObject], some after⟩
          | ',' :: after => memberLexemes steps after
          | _ => .broken).after (.key key)
    | _ => .broken

end

/-- The lexemes of a text and whether they are a document to its end. -/
structure Walk where
  lexemes : List Lexeme
  isComplete : Bool

/-- The walk through a text. -/
def walk (text : List Char) : Walk :=
  let run := valueLexemes (2 * text.length + 2) text
  ⟨run.lexemes, match run.rest with
    | some rest => (skipSpace rest).isEmpty
    | none => false⟩

end FacetedQuery.Json
