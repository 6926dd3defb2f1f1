import FacetedQuery.ConstraintBlock
import FacetedQuery.Request
import FacetedQuery.Sparql.Grammar.Query
import FacetedQuery.Template.Queries

/-!
# Assembled queries

The text of the query for a request.  The templates of a portal are filled with the constraint
block, the classes, the sort clauses and the page, and the declarations of the prefixes are put in
front.  The assembler may refuse a text that is no valid query.
-/

namespace FacetedQuery

open Rdf (Iri Literal)

/-- A complete query and what its rows are made into. -/
structure AssembledQuery where
  text : String
  shape : ResultShape
deriving DecidableEq

/-- The parts of a query that sort its rows. -/
structure SortClauses where
  /-- A pattern that binds the value to sort by. -/
  triple : String
  clause : String
deriving DecidableEq

namespace SortClauses

/-- Rows without a key are sorted by their ids, which tell all rows apart. -/
def byId : SortClauses :=
  ⟨"", "ORDER BY ?id"⟩

/-- Rows without a value come last, and equal rows are sorted by their ids. -/
def byPath (path : String) (direction : SortDirection) : SortClauses where
  triple := "OPTIONAL " ++ Text.braced ("?id " ++ path ++ " ?orderByValue")
  clause := "ORDER BY (!BOUND(?orderBy)) " ++ direction.keyword ++ "(?orderBy) ?id"

/-- An ascending page sorts an entity by its least value, a descending one by its greatest. -/
def aggregate : SortDirection → String
  | .ascending => "MIN"
  | .descending => "MAX"

/-- A key with this ending is sorted by the ends of time spans. -/
def isTimespanKey (key : String) : Bool :=
  "Timespan".toList.isSuffixOf key.toList

/-- The path to the values that a facet is sorted by. -/
def path (spec : ResultClass) (facet : Facet) (key : String) (direction : SortDirection) :
    Except ConfigurationFault String :=
  let need (part : Option String) (property : String) : Except ConfigurationFault String :=
    match part with
    | some path => .ok path
    | none => .error (.missingFacetProperty spec.id facet.id property)
  if isTimespanKey key then
    match direction with
    | .ascending => need (facet.timespan.bind (·.sortAscending)) "ascending sort predicate"
    | .descending => need (facet.timespan.bind (·.sortDescending)) "descending sort predicate"
  else need facet.labelPath "label path"

/-- The clauses of an order of the instances of a class. -/
def ofOrder (spec : ResultClass) (order : SortOrder) : Except ConfigurationFault SortClauses :=
  match order.key.or spec.defaultSortKey with
  | none => .ok byId
  | some key =>
    match spec.facet? key with
    | none => .error (.unknownSortKey spec.id key)
    | some facet => do
      let path ← path spec facet key order.direction
      return byPath path order.direction

end SortClauses

/-- A row of years from the first to the last. -/
structure Period where
  first : Int
  last : Int
deriving DecidableEq

namespace Period

/-- The periods of a length that cover the years from `start` to `stop`. -/
def tile (start stop : Int) (length : Nat) : List Period :=
  let count := if start ≤ stop then (stop - start).toNat / length + 1 else 0
  (List.range count).map fun (index : Nat) =>
    let first := start + index * length
    ⟨first, first + length - 1⟩

def label (period : Period) : String :=
  Decimal.integer period.first ++ "-" ++ Decimal.integer period.last

def edge (template : String) (edge : YearEdge) (year : Int) :
    Except ConfigurationFault Literal :=
  match TimeBound.yearDate edge year with
  | .ok date => .ok (.typed date.render Rdf.xsdDate)
  | .error fault => .error (.invalidQuery template (.request fault))

/-- The row of inline data for a period. -/
def row (template : String) (period : Period) : Except ConfigurationFault String := do
  let first ← edge template .first period.first
  let last ← edge template .last period.last
  return "(" ++ Text.join " " [(Literal.plain period.label).render, first.render, last.render] ++
    ")"

/-- The inline data of all periods. -/
def values (template : String) (startYear endYear : Int32) (length : UInt32) :
    Except ConfigurationFault String :=
  if length = 0 then .error (.invalidQuery template .periodLength)
  else do
    let rows ← (tile startYear.toInt endYear.toInt length.toNat).mapM (row template)
    return "VALUES (?period ?periodStart ?periodEnd) " ++ Text.openBrace ++ "\n  " ++
      Text.join "\n  " rows ++ "\n" ++ Text.closeBrace

end Period

/-- Assembles queries for a portal. -/
structure Assembler where
  portal : Portal
  /-- Whether every query is checked before it is handed out. -/
  validates : Bool

namespace Assembler

/-- A body behind the declarations of the prefixes. -/
def complete (assembler : Assembler) (name body : String) : Except ConfigurationFault String :=
  let text := assembler.portal.prefixDeclarations ++ body
  if assembler.validates && !Sparql.isQuery text then .error (.invalidQuery name .grammar)
  else .ok text

/-- Fills in the block of constraints, which are checked even if it has no place. -/
def fillFilter (assembler : Assembler) (facetClass : String)
    (constraints : Option ConstraintSet) (filterTarget : String) (template : Template) :
    Except Fault Template := do
  let block ← ConstraintBlock.compose assembler.portal facetClass constraints filterTarget
  return template.fill .filter block.render

/-- The class whose facets interpret the constraints: the one of the request, else the one of the
route, else the class itself. -/
def facetClass (requested routed : Option String) (resultClass : String) : String :=
  (requested.or routed).getD resultClass

def configured (outcome : Except ConfigurationFault α) : Except Fault α :=
  outcome.mapError .configuration

def countBody (assembler : Assembler) (resultClass : String)
    (constraints : Option ConstraintSet) : Except Fault String := do
  let spec ← configured (assembler.portal.resultClass resultClass)
  let template := (Template.ofText "count" Template.countQuery).fill .facetClass spec.classList
  configured (← assembler.fillFilter resultClass constraints "id" template).finish

def resultSetBody (assembler : Assembler) (resultClass : String)
    (constraints : Option ConstraintSet) (page : Page) (order : SortOrder) :
    Except Fault String := do
  let spec ← configured (assembler.portal.resultClass resultClass)
  let window ← page.window.mapError .validation
  let sort ← configured (SortClauses.ofOrder spec order)
  let template ← assembler.fillFilter resultClass constraints "id"
    (Template.ofText "result set" Template.resultSetQuery)
  let limits := "LIMIT " ++ Decimal.natural window.limit ++ " OFFSET " ++
    Decimal.natural window.offset
  configured <| template
    |>.fill .facetClass spec.classList
    |>.fill .orderByAggregate (SortClauses.aggregate order.direction)
    |>.fill .orderByTriple sort.triple
    |>.fill .orderBy sort.clause
    |>.fill .page limits
    |>.fill .resultSetProperties spec.properties
    |>.finish

/-- The template of a listing, with its periods if it has some. -/
def listingTemplate (resultClass : String) :
    ListingQuery → Except ConfigurationFault Template
  | .plain text => .ok (Template.ofText resultClass text)
  | .timeBuckets template startYear endYear periodLength => do
    let periods ← Period.values resultClass startYear endYear periodLength
    return (Template.ofText resultClass template).fill .periods periods

def listingBody (assembler : Assembler) (route : ListingRoute) (resultClass : String)
    (requestedClass : Option String) (constraints : Option ConstraintSet) (groupBy : Bool) :
    Except Fault String := do
  let template ← configured (listingTemplate resultClass (route.variant groupBy).query)
  let facets := facetClass requestedClass route.facetClass resultClass
  configured (← assembler.fillFilter facets constraints route.filterTarget template).finish

def lookupBody (assembler : Assembler) (resultClass : String) (requestedClass : Option String)
    (constraints : Option ConstraintSet) (uri : String) : Except Fault String := do
  let route ← configured (assembler.portal.lookup resultClass)
  let iri ← (Iri.ofText uri).mapError fun fault => .validation (.invalidIri uri fault)
  let template := Template.ofText resultClass Template.instanceQuery
    |>.fill .properties route.properties
    |>.fill .relatedInstances route.relatedInstances
  let facets := facetClass requestedClass route.facetClass resultClass
  let filled ← assembler.fillFilter facets constraints "related__id" template
  configured (filled.fill .id iri.render).finish

/-- The body of the query for a request and what its rows are made into. -/
def body (assembler : Assembler) : Request → Except Fault AssembledQuery
  | .count resultClass constraints => do
    return ⟨← assembler.countBody resultClass constraints, .count⟩
  | .resultSet resultClass constraints page order => do
    return ⟨← assembler.resultSetBody resultClass constraints page order, .objects⟩
  | .listing resultClass facetClass constraints groupBy => do
    let route ← configured (assembler.portal.listing resultClass)
    let body ← assembler.listingBody route resultClass facetClass constraints groupBy
    return ⟨body, (route.variant groupBy).shape⟩
  | .lookup resultClass facetClass constraints uri => do
    return ⟨← assembler.lookupBody resultClass facetClass constraints uri, .objects⟩

/-- The query for a request. -/
def assemble (assembler : Assembler) (request : Request) : Except Fault AssembledQuery := do
  let query ← assembler.body request
  let text ← configured (assembler.complete request.purpose.name query.text)
  return { query with text }

/-- The query for the nodes of a network. -/
def assembleNodes (assembler : Assembler) (nodesQuery : String) (ids : List Iri) :
    Except ConfigurationFault String := do
  let template := (Template.ofText "network nodes" nodesQuery).fill .idSet
    (Text.join " " (ids.map Iri.render))
  assembler.complete "network nodes" (← template.finish)

end Assembler

end FacetedQuery
