/-!
# White space and lines

White space is the Unicode property `White_Space`.  Trimming removes it at the ends of a text,
and a text is blank if nothing else is in it.  Lines end at a line feed, with or without a
carriage return before it.
-/

namespace FacetedQuery.Text

/-- The characters of the property `White_Space`. -/
def isBlank (character : Char) : Bool :=
  let code := character.toNat
  (0x09 ≤ code && code ≤ 0x0D) || code == 0x20 || code == 0x85 || code == 0xA0 ||
    code == 0x1680 || (0x2000 ≤ code && code ≤ 0x200A) || code == 0x2028 || code == 0x2029 ||
    code == 0x202F || code == 0x205F || code == 0x3000

/-- Removes white space at the start. -/
def trimStart (text : List Char) : List Char :=
  text.dropWhile isBlank

/-- Removes white space at the end. -/
def trimEnd (text : List Char) : List Char :=
  (trimStart text.reverse).reverse

/-- Removes white space at both ends. -/
def trimChars (text : List Char) : List Char :=
  trimEnd (trimStart text)

/-- A text with the white space at both of its ends removed. -/
def trim (text : String) : String :=
  String.ofList (trimChars text.toList)

/-- A blank text holds nothing but white space. -/
def blank (text : String) : Bool :=
  text.toList.all isBlank

/-- Splits at every line feed; a text without one is a single piece. -/
def splitLines : List Char → List (List Char)
  | [] => [[]]
  | '\n' :: rest => [] :: splitLines rest
  | character :: rest =>
    match splitLines rest with
    | [] => [[character]]
    | line :: lines => (character :: line) :: lines

/-- Drops the empty piece after a final line feed. -/
def dropEmptyLast : List (List Char) → List (List Char)
  | [] => []
  | [[]] => []
  | line :: lines => line :: dropEmptyLast lines

/-- Drops one carriage return at the end of a line that a line feed ended. -/
def dropReturn (line : List Char) : List Char :=
  match line.reverse with
  | '\r' :: rest => rest.reverse
  | _ => line

/-- Drops the carriage return of every line but an unfinished last one. -/
def dropReturns : List (List Char) → List (List Char)
  | [] => []
  | [line] => [line]
  | line :: lines => dropReturn line :: dropReturns lines

/-- The lines of a text without their line ends; a final line end opens no further line. -/
def lines (text : List Char) : List (List Char) :=
  dropEmptyLast (dropReturns (splitLines text))

/-- Joins pieces with a separator between each two. -/
def joinChars (separator : List Char) : List (List Char) → List Char
  | [] => []
  | [piece] => piece
  | piece :: pieces => piece ++ separator ++ joinChars separator pieces

/-- Joins texts with a separator between each two. -/
def join (separator : String) : List String → String
  | [] => ""
  | [piece] => piece
  | piece :: pieces => piece ++ separator ++ join separator pieces

end FacetedQuery.Text
