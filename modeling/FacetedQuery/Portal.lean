import FacetedQuery.Facet

/-!
# Portals

The description of a faceted search portal: its prefixes, the classes of results with their
facets, the listings that are shown without pages, and the lookups of single entities.  Of several
entries with one id the first one counts.
-/

namespace FacetedQuery

/-- The declaration of a prefix. -/
structure PrefixDeclaration where
  name : String
  iri : String
deriving DecidableEq

namespace PrefixDeclaration

def render (declaration : PrefixDeclaration) : String :=
  "PREFIX " ++ declaration.name ++ ": <" ++ declaration.iri ++ ">\n"

end PrefixDeclaration

/-- A class of results. -/
structure ResultClass where
  id : String
  /-- Instances of any of these classes are counted and listed. -/
  rdfClasses : List String
  /-- Patterns that bind the columns of a result page for `?id`. -/
  properties : String
  defaultSortKey : Option String
  facets : List Facet
deriving DecidableEq

namespace ResultClass

def facet? (spec : ResultClass) (id : String) : Option Facet :=
  spec.facets.find? (·.id == id)

/-- The facet with an id, or the fault that there is none. -/
def facet (spec : ResultClass) (id : String) : Except ConfigurationFault Facet :=
  match spec.facet? id with
  | some facet => .ok facet
  | none => .error (.unknownFacet spec.id id)

/-- The RDF classes as they stand in a query. -/
def classList (spec : ResultClass) : String :=
  Text.join " " spec.rdfClasses

end ResultClass

/-- What the rows of a query are made into. -/
inductive ResultShape where
  | count
  | objects
  | places
  | coordinates
  /-- Links, whose nodes a second query fetches. -/
  | network (nodesQuery : String)
deriving DecidableEq

/-- The query of a listing: a text, or a text that is repeated for every period of years. -/
inductive ListingQuery where
  | plain (text : String)
  | timeBuckets (template : String) (startYear endYear : Int32) (periodLength : UInt32)
deriving DecidableEq

/-- A query and what its rows are made into. -/
structure ListingVariant where
  query : ListingQuery
  shape : ResultShape
deriving DecidableEq

/-- A listing of a result class. -/
structure ListingRoute where
  resultClass : String
  /-- The class whose facets interpret the constraints if the request names none. -/
  facetClass : Option String
  /-- The name of the variable that the constraints restrict. -/
  filterTarget : String
  plain : ListingVariant
  grouped : Option ListingVariant
deriving DecidableEq

namespace ListingRoute

/-- The variant for a request; a route without a grouped variant has only one. -/
def variant (route : ListingRoute) (groupBy : Bool) : ListingVariant :=
  match route.grouped, groupBy with
  | some grouped, true => grouped
  | _, _ => route.plain

end ListingRoute

/-- The page of a single entity of a result class. -/
structure LookupRoute where
  resultClass : String
  facetClass : Option String
  /-- Patterns that bind the properties of `?id`. -/
  properties : String
  /-- Patterns that bind entities related to `?id`. -/
  relatedInstances : String
deriving DecidableEq

/-- A portal. -/
structure Portal where
  prefixes : List PrefixDeclaration
  resultClasses : List ResultClass
  listings : List ListingRoute
  lookups : List LookupRoute
deriving DecidableEq

namespace Portal

def resultClass (portal : Portal) (id : String) : Except ConfigurationFault ResultClass :=
  match portal.resultClasses.find? (·.id == id) with
  | some spec => .ok spec
  | none => .error (.unknownResultClass id)

def listing (portal : Portal) (id : String) : Except ConfigurationFault ListingRoute :=
  match portal.listings.find? (·.resultClass == id) with
  | some route => .ok route
  | none => .error (.unknownListing id)

def lookup (portal : Portal) (id : String) : Except ConfigurationFault LookupRoute :=
  match portal.lookups.find? (·.resultClass == id) with
  | some route => .ok route
  | none => .error (.unknownLookup id)

/-- The lines that declare the prefixes of every query. -/
def prefixDeclarations (portal : Portal) : String :=
  String.join (portal.prefixes.map PrefixDeclaration.render)

end Portal

end FacetedQuery
