import FacetedQuery.Sparql.Reader

/-!
# Labels of blank nodes

A label names one node within a group.  Where a group starts or ends, the labels used before it
may not come back.
-/

namespace FacetedQuery.Sparql

/-- The braces that come next. -/
inductive BraceRole where
  | group
  /-- Braces of inline data or of a template are about to open. -/
  | listAhead
  | list
deriving DecidableEq

/-- Whether a label is used only between two borders of groups.  `closed` holds the labels before
the last border and `current` those behind it. -/
def labelsAreLocalFrom (role : BraceRole) (closed current : List String) : List Token → Bool
  | [] => true
  | .blank label :: rest =>
    !closed.contains label && labelsAreLocalFrom role closed (label :: current) rest
  | .mark .openBrace :: rest =>
    if role = .group then labelsAreLocalFrom .group (current ++ closed) [] rest
    else labelsAreLocalFrom .list closed current rest
  | .mark .closeBrace :: rest =>
    if role = .group then labelsAreLocalFrom .group (current ++ closed) [] rest
    else labelsAreLocalFrom .group closed current rest
  | .word letters :: rest =>
    let word := Reader.capitals letters
    if word = "VALUES" || word = "CONSTRUCT" then labelsAreLocalFrom .listAhead closed current rest
    else if word = "WHERE" || word = "FROM" then labelsAreLocalFrom .group closed current rest
    else labelsAreLocalFrom role closed current rest
  | _ :: rest => labelsAreLocalFrom role closed current rest

def labelsAreLocal (tokens : List Token) : Bool :=
  labelsAreLocalFrom .group [] [] tokens

end FacetedQuery.Sparql
