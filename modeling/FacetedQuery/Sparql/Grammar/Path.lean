import FacetedQuery.Sparql.Reader

/-!
# Grammar of property paths

Alternatives of sequences of steps, each of which may be inverted and then repeated.
-/

namespace FacetedQuery.Sparql.Grammar

open Reader

/-- Reads a word that is written in small letters only. -/
def smallWord (letters : String) : Reader Unit :=
  token fun
    | .word found => if found = letters then some () else none
    | _ => none

def propertyName : Reader PropertyName :=
  (.resource <$> resource) <|> (do smallWord "a"; return .type)

def excludedProperty : Reader ExcludedProperty := do
  let inverse ← taken (mark .caret)
  let property ← propertyName
  return ⟨inverse, property⟩

/-- Reads a set of properties behind its exclamation mark. -/
def excludedProperties : Reader (List ExcludedProperty) :=
  (do
    let member ← excludedProperty
    return [member]) <|>
  parenthesised (separated (mark .bar) excludedProperty)

def pathModifier : Reader PathModifier :=
  (do mark .star; return .zeroOrMore) <|>
  (do mark .plus; return .oneOrMore) <|>
  (do mark .question; return .zeroOrOne)

/-- Reads a path without operators outside of brackets. -/
def pathPrimary (inner : Reader Path) : Reader Path :=
  (.property <$> propertyName) <|>
  (do mark .bang; .negated <$> excludedProperties) <|>
  parenthesised inner

/-- Reads one step of a path. -/
def pathStep (inner : Reader Path) : Reader Path := do
  let inverse ← taken (mark .caret)
  let primary ← pathPrimary inner
  let modifier ← maybe pathModifier
  let step := match modifier with
    | none => primary
    | some modifier => .modified primary modifier
  return if inverse then .inverse step else step

/-- Reads a path, given a reader of what stands in brackets. -/
def pathWith (inner : Reader Path) : Reader Path :=
  chain (mark .bar) .alternative (chain (mark .slash) .sequence (pathStep inner))

/-- Reads a path whose brackets are nested at most as deep as given. -/
def pathWithin : Nat → Reader Path
  | 0 => failure
  | depth + 1 => pathWith (pathWithin depth)

def path : Reader Path :=
  fun tokens => pathWithin tokens.length tokens

/-- Reads a verb of a pattern. -/
def pathVerb : Reader Verb :=
  (.var <$> variableName) <|> (.path <$> path)

/-- Reads a verb of a template, which is no path. -/
def simpleVerb : Reader Verb :=
  (.var <$> variableName) <|> (do return .path (.property (← propertyName)))

end FacetedQuery.Sparql.Grammar
