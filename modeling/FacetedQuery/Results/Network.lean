import FacetedQuery.Results.Places

/-!
# Networks

Rows as the links and the nodes of a graph.
-/

namespace FacetedQuery

open Rdf (Iri)

structure NetworkNode where
  id : String
  label : Option String
  kind : Option String
deriving DecidableEq

structure NetworkLink where
  source : String
  target : String
  weight : Option Nat
deriving DecidableEq

structure NetworkGraph where
  nodes : List NetworkNode
  links : List NetworkLink
deriving DecidableEq

namespace NetworkGraph

def empty : NetworkGraph :=
  ⟨[], []⟩

end NetworkGraph

def NetworkNode.toJson (node : NetworkNode) : Json.Value :=
  .object <| Json.presentMembers [
    ("id", some (.text node.id)),
    ("prefLabel", node.label.map .text),
    ("class", node.kind.map .text)]

def NetworkLink.toJson (link : NetworkLink) : Json.Value :=
  .object <| Json.presentMembers [
    ("source", some (.text link.source)),
    ("target", some (.text link.target)),
    ("weight", link.weight.map .natural)]

def NetworkGraph.toJson (graph : NetworkGraph) : Json.Value :=
  .object [
    ("nodes", .array (graph.nodes.map NetworkNode.toJson)),
    ("links", .array (graph.links.map NetworkLink.toJson))]

/-- The link in a row. -/
def readLink (row : Solution) (index : Nat) : Except MappingFault NetworkLink := do
  let source ← row.text index "source"
  let target ← row.text index "target"
  let weight ← row.number? index .count "weight"
  return ⟨source, target, weight⟩

def readLinks (rows : List Solution) : Except MappingFault (List NetworkLink) :=
  mapRows readLink rows

/-- The nodes of rows, of which the first one of each node counts. -/
def readNodes (rows : List Solution) : Except MappingFault (List NetworkNode) :=
  readDistinct NetworkNode.id
    (fun row _ id => .ok ⟨id, row.text? "prefLabel", row.text? "class"⟩) rows

/-- Adds an end of a link, which has to be an IRI, unless it is known. -/
def addEndpoint (index : Nat) (found : List Iri) (column value : String) :
    Except MappingFault (List Iri) :=
  if found.any (·.text == value) then .ok found
  else
    match Iri.ofText value with
    | .ok iri => .ok (found ++ [iri])
    | .error _ => .error (.invalidValue column index value "IRI")

/-- The ends of links, each once, in the order in which they appear first. -/
def linkEndpoints (links : List NetworkLink) : Except MappingFault (List Iri) :=
  links.zipIdx.foldlM (fun found link => do
    let withSource ← addEndpoint link.2 found "source" link.1.source
    addEndpoint link.2 withSource "target" link.1.target) []

end FacetedQuery
