import FacetedQuery.Json.Reader
import FacetedQuery.Rdf.Name

/-!
# Tokens of SPARQL

The lexical grammar of SPARQL queries.  Escapes of code points are undone in the whole text first;
then white space and comments separate tokens, each of which is as long as it can be.  The texts
of IRIs, strings and local names are given without their escapes.  The reader of a single token
takes the text behind the characters that tell its kind.
-/

namespace FacetedQuery.Sparql

/-- Punctuation and operators. -/
inductive Mark where
  | openBrace
  | closeBrace
  | openParen
  | closeParen
  | openBracket
  | closeBracket
  | dot
  | comma
  | semicolon
  | star
  | slash
  | bar
  | doubleBar
  | caret
  | doubleCaret
  | question
  | plus
  | minus
  | bang
  | bangEqual
  | equal
  | less
  | lessEqual
  | greater
  | greaterEqual
  | doubleAnd
deriving DecidableEq, Repr

/-- The name of a resource: an IRI in angle brackets or a prefix with a local name. -/
inductive IriName where
  | iri (text : String)
  | prefixed (space localName : String)
deriving DecidableEq, Repr

/-- The sign that is written before a number. -/
inductive NumberSign where
  | none
  | plus
  | minus
deriving DecidableEq, Repr

inductive Token where
  | name (value : IriName)
  | blank (label : String)
  | var (name : String)
  | language (tag : String)
  | number (sign : NumberSign) (digits : String)
  | string (value : String)
  | word (letters : String)
  | mark (value : Mark)
deriving DecidableEq, Repr

namespace Token

/-- The number that hexadecimal digits denote. -/
def hexNumber? (row : List Char) : Option Nat :=
  (row.mapM Json.hexValue?).map (·.foldl (fun total digit => total * 16 + digit) 0)

/-- The character of a code point that is given in hexadecimal digits. -/
def codePoint? (row : List Char) : Option Char :=
  (hexNumber? row).bind fun code =>
    if code < 0xD800 || (0xDFFF < code && code < 0x110000) then some (Char.ofNat code) else none

/-- Undoes the escapes of code points.  A backslash before any other letter keeps it. -/
def unescape : List Char → List Char
  | '\\' :: 'u' :: a :: b :: c :: d :: rest =>
    match codePoint? [a, b, c, d] with
    | some character => character :: unescape rest
    | none => '\\' :: 'u' :: unescape (a :: b :: c :: d :: rest)
  | '\\' :: 'U' :: a :: b :: c :: d :: e :: f :: g :: h :: rest =>
    match codePoint? [a, b, c, d, e, f, g, h] with
    | some character => character :: unescape rest
    | none => '\\' :: 'U' :: unescape (a :: b :: c :: d :: e :: f :: g :: h :: rest)
  | '\\' :: character :: rest => '\\' :: character :: unescape rest
  | character :: rest => character :: unescape rest
  | [] => []
termination_by text => text.length
decreasing_by all_goals (simp only [List.length_cons]; omega)

/-- The letters of names, without the underscore. -/
def isLetter (character : Char) : Bool :=
  Rdf.Name.isLetter character

/-- The characters that a name may start with where digits are excluded. -/
def isNameStart (character : Char) : Bool :=
  character == '_' || isLetter character

/-- The characters of names behind the first. -/
def isNameChar (character : Char) : Bool :=
  character == '-' || Rdf.Name.isVariableRest character

def isVarStart (character : Char) : Bool :=
  isNameStart character || character.isDigit

def isVarChar (character : Char) : Bool :=
  Rdf.Name.isVariableRest character

def isWordChar (character : Char) : Bool :=
  character.isAlphanum || character == '_'

/-- The characters that an IRI in angle brackets may not hold. -/
def isIriExcluded (character : Char) : Bool :=
  character.toNat ≤ 0x20 || character == '<' || character == '>' || character == '"' ||
    character == '\x7b' || character == '\x7d' || character == '|' || character == '^' ||
    character == '\x60' || character == '\\'

/-- The characters that a backslash escapes in a local name. -/
def isLocalEscape (character : Char) : Bool :=
  "_~.-!$&'()*+,;=/?#@%".toList.contains character

/-- Skips white space and comments; the flag says whether a comment is open. -/
def skipBlank (inComment : Bool) : List Char → List Char
  | [] => []
  | character :: rest =>
    if inComment then
      skipBlank (character != '\n' && character != '\r') rest
    else if Json.isSpace character then skipBlank false rest
    else if character == '#' then skipBlank true rest
    else character :: rest

/-- Reads an IRI behind its opening bracket. -/
def readIri? (text : List Char) : Option (Token × List Char) :=
  match text.dropWhile (!isIriExcluded ·) with
  | '>' :: rest =>
    some (.name (.iri (String.ofList (text.takeWhile (!isIriExcluded ·)))), rest)
  | _ => none

/-- The character that an escape in a string stands for. -/
def stringEscape? (letter : Char) : Option Char :=
  if letter == 't' then some '\t'
  else if letter == 'b' then some '\x08'
  else if letter == 'n' then some '\n'
  else if letter == 'r' then some '\r'
  else if letter == 'f' then some '\x0c'
  else if letter == '"' || letter == '\'' || letter == '\\' then some letter
  else none

/-- Reads a string on one line up to its closing quote. -/
def readShort? (quote : Char) : List Char → Option (List Char × List Char)
  | [] => none
  | '\\' :: letter :: rest =>
    match stringEscape? letter with
    | some character =>
      (readShort? quote rest).map fun result => (character :: result.1, result.2)
    | none => none
  | character :: rest =>
    if character == quote then some ([], rest)
    else if character == '\n' || character == '\r' || character == '\\' then none
    else (readShort? quote rest).map fun result => (character :: result.1, result.2)

/-- Reads a string of any lines up to its three closing quotes. -/
def readLong? (quote : Char) : List Char → Option (List Char × List Char)
  | [] => none
  | '\\' :: letter :: rest =>
    match stringEscape? letter with
    | some character =>
      (readLong? quote rest).map fun result => (character :: result.1, result.2)
    | none => none
  | character :: rest =>
    if [quote, quote, quote].isPrefixOf (character :: rest) then some ([], rest.drop 2)
    else if character == '\\' then none
    else (readLong? quote rest).map fun result => (character :: result.1, result.2)

/-- Reads a string behind its first quote. -/
def readString? (quote : Char) (text : List Char) : Option (Token × List Char) :=
  let body := if [quote, quote].isPrefixOf text then readLong? quote (text.drop 2)
    else readShort? quote text
  body.map fun result => (.string (String.ofList result.1), result.2)

/-- Reads a language tag behind its at sign. -/
def readLanguage? (text : List Char) : Option (Token × List Char) :=
  let isTagChar (character : Char) := character.isAlphanum || character == '-'
  match text with
  | first :: _ =>
    if first.isAlpha then
      some (.language (String.ofList (text.takeWhile isTagChar)), text.dropWhile isTagChar)
    else none
  | [] => none

/-- The exponent at the start of a text, with its mark. -/
def exponentOf (text : List Char) : List Char :=
  match text with
  | letter :: rest =>
    if letter == 'e' || letter == 'E' then
      let sign := (rest.take 1).filter fun character => character == '+' || character == '-'
      match (rest.drop sign.length).takeWhile Char.isDigit with
      | [] => []
      | row => letter :: sign ++ row
    else []
  | [] => []

/-- The longest unsigned number at the start of a text; it is empty if there is none. -/
def numberOf (text : List Char) : List Char :=
  let whole := text.takeWhile Char.isDigit
  let afterWhole := text.dropWhile Char.isDigit
  match afterWhole with
  | '.' :: rest =>
    let fraction := rest.takeWhile Char.isDigit
    let exponent := exponentOf (rest.dropWhile Char.isDigit)
    if !fraction.isEmpty || (!whole.isEmpty && !exponent.isEmpty) then
      whole ++ '.' :: fraction ++ exponent
    else whole
  | _ => if whole.isEmpty then [] else whole ++ exponentOf afterWhole

/-- Reads a number with a sign that was taken already. -/
def readNumber? (sign : NumberSign) (text : List Char) : Option (Token × List Char) :=
  match numberOf text with
  | [] => none
  | row => some (.number sign (String.ofList row), text.drop row.length)

/-- Whether a local name goes on at a character with what follows it. -/
def continuesLocal (text : List Char) : Bool :=
  match text with
  | '%' :: first :: second :: _ => (Json.hexValue? first).isSome && (Json.hexValue? second).isSome
  | '\\' :: character :: _ => isLocalEscape character
  | character :: _ => character == ':' || isNameChar character
  | [] => false

/-- Reads a local name.  A point belongs to it only if the name goes on behind it. -/
def readLocal : List Char → List Char × List Char
  | [] => ([], [])
  | '\\' :: character :: rest =>
    if isLocalEscape character then
      let result := readLocal rest
      (character :: result.1, result.2)
    else ([], '\\' :: character :: rest)
  | character :: rest =>
    if (character == '.' && continuesLocal (rest.dropWhile (· == '.'))) ||
        (character != '.' && continuesLocal (character :: rest)) then
      let result := readLocal rest
      (character :: result.1, result.2)
    else ([], character :: rest)

/-- Whether a local name may start with a character. -/
def startsLocal (text : List Char) : Bool :=
  match text with
  | [] => false
  | character :: _ =>
    character == ':' || character == '%' || character == '\\' || isVarStart character

/-- Reads the local name behind the colon of a prefix. -/
def readPrefixed (space : List Char) (text : List Char) : Token × List Char :=
  let result := if startsLocal text then readLocal text else ([], text)
  (.name (.prefixed (String.ofList space) (String.ofList result.1)), result.2)

/-- Whether a run of characters is the name of a prefix. -/
def isPrefixName (run : List Char) : Bool :=
  run.getLast? != some '.'

/-- Reads a prefixed name or a word that starts with a letter. -/
def readName? (text : List Char) : Option (Token × List Char) :=
  let isRunChar (character : Char) := character == '.' || isNameChar character
  let run := text.takeWhile isRunChar
  match text.dropWhile isRunChar with
  | ':' :: rest =>
    if isPrefixName run then some (readPrefixed run rest)
    else readWord? text
  | _ => readWord? text
where
  /-- Reads a word of ASCII letters, digits and underscores. -/
  readWord? (text : List Char) : Option (Token × List Char) :=
    match text.takeWhile isWordChar with
    | [] => none
    | run => some (.word (String.ofList run), text.drop run.length)

/-- Reads the name of a variable. -/
def readVar? (text : List Char) : Option (Token × List Char) :=
  match text with
  | first :: _ =>
    if isVarStart first then
      some (.var (String.ofList (text.takeWhile isVarChar)), text.dropWhile isVarChar)
    else none
  | [] => none

/-- A name without the points at its end, and these points with what follows. -/
def splitPoints (run rest : List Char) : List Char × List Char :=
  let points := run.reverse.takeWhile (· == '.')
  ((run.reverse.dropWhile (· == '.')).reverse, points ++ rest)

/-- Reads the label of a blank node behind its mark. -/
def readBlank? (text : List Char) : Option (Token × List Char) :=
  let isRunChar (character : Char) := character == '.' || isNameChar character
  match text with
  | first :: _ =>
    if isVarStart first then
      let parts := splitPoints (text.takeWhile isRunChar) (text.dropWhile isRunChar)
      some (.blank (String.ofList parts.1), parts.2)
    else none
  | [] => none

/-- The mark at the start of a text, which is not empty. -/
def readMark? (text : List Char) : Option (Mark × List Char) :=
  match text with
  | '\x7b' :: rest => some (.openBrace, rest)
  | '\x7d' :: rest => some (.closeBrace, rest)
  | '(' :: rest => some (.openParen, rest)
  | ')' :: rest => some (.closeParen, rest)
  | '[' :: rest => some (.openBracket, rest)
  | ']' :: rest => some (.closeBracket, rest)
  | '.' :: rest => some (.dot, rest)
  | ',' :: rest => some (.comma, rest)
  | ';' :: rest => some (.semicolon, rest)
  | '*' :: rest => some (.star, rest)
  | '/' :: rest => some (.slash, rest)
  | '|' :: '|' :: rest => some (.doubleBar, rest)
  | '|' :: rest => some (.bar, rest)
  | '^' :: '^' :: rest => some (.doubleCaret, rest)
  | '^' :: rest => some (.caret, rest)
  | '?' :: rest => some (.question, rest)
  | '+' :: rest => some (.plus, rest)
  | '-' :: rest => some (.minus, rest)
  | '!' :: '=' :: rest => some (.bangEqual, rest)
  | '!' :: rest => some (.bang, rest)
  | '=' :: rest => some (.equal, rest)
  | '<' :: '=' :: rest => some (.lessEqual, rest)
  | '<' :: rest => some (.less, rest)
  | '>' :: '=' :: rest => some (.greaterEqual, rest)
  | '>' :: rest => some (.greater, rest)
  | '&' :: '&' :: rest => some (.doubleAnd, rest)
  | _ => none

def readMarkToken? (text : List Char) : Option (Token × List Char) :=
  (readMark? text).map fun result => (.mark result.1, result.2)

/-- Reads the token at the start of a text that starts with neither white space nor a comment. -/
def readToken? (text : List Char) : Option (Token × List Char) :=
  match text with
  | [] => none
  | '<' :: rest => (readIri? rest).or (readMarkToken? text)
  | '"' :: rest => readString? '"' rest
  | '\'' :: rest => readString? '\'' rest
  | '@' :: rest => readLanguage? rest
  | '?' :: rest => (readVar? rest).or (readMarkToken? text)
  | '$' :: rest => readVar? rest
  | '_' :: ':' :: rest => readBlank? rest
  | ':' :: rest => some (readPrefixed [] rest)
  | '+' :: rest => (readNumber? .plus rest).or (readMarkToken? text)
  | '-' :: rest => (readNumber? .minus rest).or (readMarkToken? text)
  | '.' :: _ => (readNumber? .none text).or (readMarkToken? text)
  | character :: _ =>
    if character.isDigit then readNumber? .none text
    else if isLetter character then readName? text
    else readMarkToken? text

/-- Reads a text to its end in at most the given number of steps. -/
def readAll? : Nat → List Char → Option (List Token)
  | 0, _ => none
  | steps + 1, text =>
    match skipBlank false text with
    | [] => some []
    | start :: rest =>
      match readToken? (start :: rest) with
      | none => none
      | some (token, after) => (readAll? steps after).map (token :: ·)

/-- The tokens of a text, if it consists of tokens. -/
def tokens? (text : List Char) : Option (List Token) :=
  let plain := unescape text
  readAll? (plain.length + 1) plain

end Token

end FacetedQuery.Sparql
