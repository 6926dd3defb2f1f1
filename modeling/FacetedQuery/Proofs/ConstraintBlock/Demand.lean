import FacetedQuery.Proofs.ConstraintBlock.Restriction

/-!
# What constraints ask

What a constraint on a facet asks of an entity, told by the terms that the property paths of the
facet relate.  It mentions neither patterns nor their solutions.
-/

namespace FacetedQuery

open Clause (Graph Operators Value lexical?)
open Clause.Pattern (Optionally)
open Rdf (Iri Literal Term)

section

variable (graph : Graph) (operators : Operators) (facet : Facet) (entity : Term)

/-- A literal as a value of expressions. -/
def Clause.Value.literal (value : Literal) : Value :=
  .term (.literal value)

/-- A coordinate lies between two numbers. -/
def Clause.Operators.Between (operators : Operators) (low high : Float)
    (coordinate : Term) : Prop :=
  ∃ number, operators.cast Rdf.xsdDouble (.term coordinate) = some number ∧
    operators.atLeast number (.literal (.double low)) = some true ∧
    operators.atMost number (.literal (.double high)) = some true

/-- A coordinate of a node lies between two numbers. -/
def Clause.Graph.Lies (path : String) (low high : Float) (located : Term) : Prop :=
  ∃ coordinate, graph.related ⟨path⟩ located coordinate ∧ operators.Between low high coordinate

/-- One of the selected terms is a value of the entity. -/
def Clause.Graph.Selects (predicate : String) (items : Term → Prop) : Prop :=
  ∃ item, items item ∧ graph.related ⟨predicate⟩ entity item

/-- One of the selected terms lies at or above a value of the entity. -/
def Clause.Graph.SelectsAbove (predicate parent : String) (items : Term → Prop) : Prop :=
  ∃ item below, items item ∧ graph.related ⟨predicate⟩ entity below ∧
    Relation.ReflTransGen (graph.related ⟨parent⟩) below item

/-- A label of the entity holds a text when both are lowercased. -/
def Clause.Graph.Labels (path text : String) : Prop :=
  ∃ label lexical, graph.related ⟨path⟩ entity label ∧ lexical? label = some lexical ∧
    (Text.lowercase text).toList <:+: (operators.lowercase lexical).toList

/-- A time span of the entity begins no later than `max` and ends no earlier than `min`; an end that
it does not have is taken from the other one. -/
def Clause.Graph.Overlaps (predicate : String) (paths : TimespanPaths)
    (min max : Option Calendar.Date) : Prop :=
  ∃ span start stop, graph.related ⟨predicate⟩ entity span ∧
    Optionally graph ⟨paths.start⟩ span start ∧ Optionally graph ⟨paths.stop⟩ span stop ∧
    (∀ date ∈ max, ∃ first ∈ start.or stop,
      operators.atMost (.term first) (.literal (.typed date.render Rdf.xsdDate)) = some true) ∧
    (∀ date ∈ min, ∃ last ∈ stop.or start,
      operators.atLeast (.term last) (.literal (.typed date.render Rdf.xsdDate)) = some true)

/-- The entity, or a value of it if there is a predicate, lies in a box. -/
def Clause.Graph.LiesIn (predicate : Option String) (paths : SpatialPaths)
    (corners : GeoBox) : Prop :=
  ∃ located, (match predicate with
      | some path => graph.related ⟨path⟩ entity located
      | none => located = entity) ∧
    graph.Lies operators paths.latitude corners.latMin corners.latMax located ∧
    graph.Lies operators paths.longitude corners.longMin corners.longMax located

/-- What a value in normal form asks of an entity. -/
def FilterValue.Meets : FilterValue → Prop
  | .uris items withSubconcepts =>
    ∃ predicate ∈ facet.predicate,
      if withSubconcepts then ∃ parent ∈ facet.parent,
        graph.SelectsAbove entity predicate parent fun term => ∃ item ∈ items, term = .iri item
      else graph.Selects entity predicate fun term => ∃ item ∈ items, term = .iri item
  | .text content => ∃ path ∈ facet.labelPath, graph.Labels operators entity path content
  | .timespan min max => ∃ predicate ∈ facet.predicate, ∃ paths ∈ facet.timespan,
      graph.Overlaps operators entity predicate paths min max
  | .box corners => ∃ paths ∈ facet.spatial,
      graph.LiesIn operators entity facet.predicate paths corners

/-- What a constraint on a facet asks of an entity. -/
def Constraint.Meets (constraint : Constraint) : Prop :=
  match constraint.value with
  | .uris items =>
    ∃ predicate ∈ facet.predicate,
      if constraint.withSubconcepts then ∃ parent ∈ facet.parent,
        graph.SelectsAbove entity predicate parent fun term =>
          ∃ iri : Iri, iri.text ∈ items.map Text.trim ∧ term = .iri iri
      else graph.Selects entity predicate fun term =>
        ∃ iri : Iri, iri.text ∈ items.map Text.trim ∧ term = .iri iri
  | .text content => ∃ path ∈ facet.labelPath,
      graph.Labels operators entity path (Text.trim content)
  | .timespan range => ∃ predicate ∈ facet.predicate, ∃ paths ∈ facet.timespan,
      graph.Overlaps operators entity predicate paths
        (range.lower?.bind fun bound => bound.lowerDate.toOption)
        (range.upper?.bind fun bound => bound.upperDate.toOption)
  | .box corners => ∃ paths ∈ facet.spatial,
      graph.LiesIn operators entity facet.predicate paths corners

end

end FacetedQuery
