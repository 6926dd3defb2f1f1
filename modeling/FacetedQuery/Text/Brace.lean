import FacetedQuery.Text.Blank

/-!
# Text in braces

Groups in the text of a query, on one line or with a line for each part.
-/

namespace FacetedQuery.Text

def openBrace : String :=
  "\x7b"

def closeBrace : String :=
  "\x7d"

/-- A text between braces, with a blank at either side. -/
def braced (content : String) : String :=
  openBrace ++ " " ++ content ++ " " ++ closeBrace

/-- The lines of a group: a head with the opening brace, the content indented by two blanks, and the
closing brace. -/
def groupLines (head : String) (content : List String) : List String :=
  (if head.isEmpty then openBrace else head ++ " " ++ openBrace) ::
    content.map ("  " ++ ·) ++ [closeBrace]

/-- A group on lines of its own. -/
def braceLines (head : String) (content : List String) : String :=
  join "\n" (groupLines head content)

end FacetedQuery.Text
