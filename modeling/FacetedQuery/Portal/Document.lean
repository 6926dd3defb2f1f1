import FacetedQuery.Facet.Document
import FacetedQuery.Json.Reader
import FacetedQuery.Portal

/-!
# Portals as documents

The members of the document that describes a portal.  Optional parts that are absent are not
written; empty texts and lists are.
-/

namespace FacetedQuery

open Json (Value)

namespace PrefixDeclaration

def ofJson? (value : Value) : Option PrefixDeclaration := do
  let fields ← value.fields? ["name", "iri"]
  return {
    name := ← fields.required? "name" Value.text?
    iri := ← fields.required? "iri" Value.text? }

def toJson (declaration : PrefixDeclaration) : Value :=
  .object [("name", .text declaration.name), ("iri", .text declaration.iri)]

end PrefixDeclaration

namespace ResultClass

def ofJson? (value : Value) : Option ResultClass := do
  let fields ← value.fields?
    ["id", "rdfClasses", "resultSetProperties", "defaultSortBy", "facets"]
  return {
    id := ← fields.required? "id" Value.text?
    rdfClasses := ← fields.required? "rdfClasses" (Value.list? Value.text?)
    properties := ← fields.withDefault? "resultSetProperties" "" Value.text?
    defaultSortKey := ← fields.optional? "defaultSortBy" Value.text?
    facets := ← fields.withDefault? "facets" [] (Value.list? Facet.ofJson?) }

def toJson (spec : ResultClass) : Value :=
  .object <| Json.presentMembers [
    ("id", some (.text spec.id)),
    ("rdfClasses", some (.array (spec.rdfClasses.map .text))),
    ("resultSetProperties", some (.text spec.properties)),
    ("defaultSortBy", spec.defaultSortKey.map .text),
    ("facets", some (.array (spec.facets.map Facet.toJson)))]

end ResultClass

namespace ResultShape

/-- A network is a structure whose one field is the query of its nodes. -/
def networkOfJson? (value : Value) : Option ResultShape := do
  let fields ← value.fields? ["nodesQuery"]
  return .network (← fields.required? "nodesQuery" Value.text?)

def ofJson? (value : Value) : Option ResultShape := do
  let alternative ← value.alternative?
  if alternative.name == "network" then networkOfJson? (← alternative.content)
  else if !alternative.isBare then none
  else if alternative.name == "count" then some .count
  else if alternative.name == "objects" then some .objects
  else if alternative.name == "places" then some .places
  else if alternative.name == "coordinates" then some .coordinates
  else none

def toJson : ResultShape → Value
  | .count => .text "count"
  | .objects => .text "objects"
  | .places => .text "places"
  | .coordinates => .text "coordinates"
  | .network nodesQuery => .object [("network", .object [("nodesQuery", .text nodesQuery)])]

end ResultShape

namespace ListingQuery

def timeBucketsOfJson? (value : Value) : Option ListingQuery := do
  let fields ← value.fields? ["template", "startYear", "endYear", "periodLength"]
  return .timeBuckets
    (← fields.required? "template" Value.text?)
    (← fields.required? "startYear" Value.signed32?)
    (← fields.required? "endYear" Value.signed32?)
    (← fields.required? "periodLength" Value.unsigned32?)

def ofJson? (value : Value) : Option ListingQuery := do
  let alternative ← value.alternative?
  let content ← alternative.content
  if alternative.name == "static" then content.text?.map .plain
  else if alternative.name == "timeBuckets" then timeBucketsOfJson? content
  else none

def toJson : ListingQuery → Value
  | .plain text => .object [("static", .text text)]
  | .timeBuckets template startYear endYear periodLength =>
    .object [("timeBuckets", .object [
      ("template", .text template),
      ("startYear", .integer startYear.toInt),
      ("endYear", .integer endYear.toInt),
      ("periodLength", .natural periodLength.toNat)])]

end ListingQuery

namespace ListingVariant

def ofJson? (value : Value) : Option ListingVariant := do
  let fields ← value.fields? ["query", "shape"]
  return {
    query := ← fields.required? "query" ListingQuery.ofJson?
    shape := ← fields.required? "shape" ResultShape.ofJson? }

def toJson (content : ListingVariant) : Value :=
  .object [("query", content.query.toJson), ("shape", content.shape.toJson)]

end ListingVariant

namespace ListingRoute

def ofJson? (value : Value) : Option ListingRoute := do
  let fields ← value.fields?
    ["resultClass", "facetClass", "filterTarget", "variant", "grouped"]
  return {
    resultClass := ← fields.required? "resultClass" Value.text?
    facetClass := ← fields.optional? "facetClass" Value.text?
    filterTarget := ← fields.required? "filterTarget" Value.text?
    plain := ← fields.required? "variant" ListingVariant.ofJson?
    grouped := ← fields.optional? "grouped" ListingVariant.ofJson? }

def toJson (route : ListingRoute) : Value :=
  .object <| Json.presentMembers [
    ("resultClass", some (.text route.resultClass)),
    ("facetClass", route.facetClass.map .text),
    ("filterTarget", some (.text route.filterTarget)),
    ("variant", some route.plain.toJson),
    ("grouped", route.grouped.map ListingVariant.toJson)]

end ListingRoute

namespace LookupRoute

def ofJson? (value : Value) : Option LookupRoute := do
  let fields ← value.fields? ["resultClass", "facetClass", "properties", "relatedInstances"]
  return {
    resultClass := ← fields.required? "resultClass" Value.text?
    facetClass := ← fields.optional? "facetClass" Value.text?
    properties := ← fields.required? "properties" Value.text?
    relatedInstances := ← fields.withDefault? "relatedInstances" "" Value.text? }

def toJson (route : LookupRoute) : Value :=
  .object <| Json.presentMembers [
    ("resultClass", some (.text route.resultClass)),
    ("facetClass", route.facetClass.map .text),
    ("properties", some (.text route.properties)),
    ("relatedInstances", some (.text route.relatedInstances))]

end LookupRoute

namespace Portal

def ofJson? (value : Value) : Option Portal := do
  let fields ← value.fields? ["prefixes", "resultClasses", "listings", "lookups"]
  return {
    prefixes := ← fields.required? "prefixes" (Value.list? PrefixDeclaration.ofJson?)
    resultClasses := ← fields.required? "resultClasses" (Value.list? ResultClass.ofJson?)
    listings := ← fields.withDefault? "listings" [] (Value.list? ListingRoute.ofJson?)
    lookups := ← fields.withDefault? "lookups" [] (Value.list? LookupRoute.ofJson?) }

def toJson (portal : Portal) : Value :=
  .object [
    ("prefixes", .array (portal.prefixes.map PrefixDeclaration.toJson)),
    ("resultClasses", .array (portal.resultClasses.map ResultClass.toJson)),
    ("listings", .array (portal.listings.map ListingRoute.toJson)),
    ("lookups", .array (portal.lookups.map LookupRoute.toJson))]

/-- Reads the text of a document as a portal. -/
def read (document : String) : Except ConfigurationFault Portal :=
  match (Json.read? document.toList).bind ofJson? with
  | some portal => .ok portal
  | none => .error .unreadablePortal

end Portal

end FacetedQuery
