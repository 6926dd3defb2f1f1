import FacetedQuery.Portal
import FacetedQuery.Text.Brace

/-!
# The manuscript portal

The portal that is built in.  Its result classes are manuscripts, works, events, actors and places
of a graph of manuscript migrations; its listings feed maps, a timeline and a network, and its
lookups feed the pages of single entities and the windows of map markers.
-/

namespace FacetedQuery.Manuscripts

open Text (braced braceLines)

/-- Prefixes by name and IRI. -/
def prefixes : List PrefixDeclaration :=
  [⟨"rdf", "http://www.w3.org/1999/02/22-rdf-syntax-ns#"⟩,
    ⟨"rdfs", "http://www.w3.org/2000/01/rdf-schema#"⟩,
    ⟨"skos", "http://www.w3.org/2004/02/skos/core#"⟩,
    ⟨"xsd", "http://www.w3.org/2001/XMLSchema#"⟩,
    ⟨"dct", "http://purl.org/dc/terms/"⟩,
    ⟨"crm", "http://erlangen-crm.org/current/"⟩,
    ⟨"frbroo", "http://erlangen-crm.org/efrbroo/"⟩,
    ⟨"gvp", "http://vocab.getty.edu/ontology#"⟩,
    ⟨"wgs84", "http://www.w3.org/2003/01/geo/wgs84_pos#"⟩,
    ⟨"mmm-schema", "http://ldf.fi/mmm/schema/"⟩]

def producedAt : String :=
  "^crm:P108_has_produced/crm:P7_took_place_at"

def producedDuring : String :=
  "^crm:P108_has_produced/crm:P4_has_time-span"

def producedBy : String :=
  "^crm:P108_has_produced/crm:P14_carried_out_by"

def initiatedBy : String :=
  "^frbroo:R16_initiated/crm:P14_carried_out_by"

def bornAt : String :=
  "crm:P98i_was_born/crm:P7_took_place_at"

def ownedBy : String :=
  "crm:P51_has_former_or_current_owner"

def lastKnownAt : String :=
  "mmm-schema:last_known_location"

def spanStart : String :=
  "crm:P82a_begin_of_the_begin"

def spanStop : String :=
  "crm:P82b_end_of_the_end"

/-- Patterns on lines of their own. -/
def patterns (lines : List String) : String :=
  Text.join "\n" lines

def optional (pattern : String) : String :=
  "OPTIONAL " ++ braced pattern

/-- The label of a subject. -/
def label (subject target : String) : String :=
  optional (subject ++ " skos:prefLabel " ++ target)

def ownLabel : String :=
  label "?id" "?prefLabel"

/-- The value of a property, with what else is bound for it. -/
def property (name path : String) (further : String → List String) : String :=
  let value := "?" ++ name ++ "__id"
  braceLines "OPTIONAL" (("?id " ++ path ++ " " ++ value ++ " .") :: further value)

/-- The value of a property and its label. -/
def labelled (name path : String) : String :=
  property name path fun value => [label value ("?" ++ name ++ "__prefLabel")]

/-- The time span of a property and its ends. -/
def spanned (name path : String) : String :=
  property name path fun value =>
    [optional (value ++ " " ++ spanStart ++ " ?" ++ name ++ "__start"),
      optional (value ++ " " ++ spanStop ++ " ?" ++ name ++ "__end")]

def fromSource : String :=
  labelled "source" "dct:source"

def coordinates : String :=
  optional "?id wgs84:lat ?lat ; wgs84:long ?long"

/-- Entities related to a place over a path. -/
def relatedOver (path : String) : String :=
  braceLines "OPTIONAL"
    ["?related__id " ++ path ++ " ?id .", "<FILTER>", label "?related__id" "?related__prefLabel"]

def manuscriptProperties : String :=
  patterns [ownLabel, labelled "author" producedBy, labelled "productionPlace" producedAt,
    spanned "productionTimespan" producedDuring, fromSource]

def manuscriptPageProperties : String :=
  patterns [ownLabel, labelled "expression" "crm:P128_carries", labelled "owner" ownedBy,
    labelled "lastKnownLocation" lastKnownAt, labelled "collection" "^crm:P46_is_composed_of"]

def expressionProperties : String :=
  patterns [ownLabel, labelled "language" "crm:P72_has_language",
    labelled "manuscript" "^crm:P128_carries"]

def collectionProperties : String :=
  patterns [ownLabel, labelled "manuscript" "crm:P46_is_composed_of", labelled "owner" ownedBy]

def workProperties : String :=
  patterns [ownLabel, labelled "author" initiatedBy,
    labelled "manuscript" "frbroo:R3_is_realised_in/^crm:P128_carries", fromSource]

def eventProperties : String :=
  patterns [ownLabel, labelled "type" "rdf:type",
    labelled "manuscript" "crm:P30_transferred_custody_of|crm:P108_has_produced",
    spanned "eventTimespan" "crm:P4_has_time-span", labelled "place" "crm:P7_took_place_at",
    fromSource]

def actorProperties : String :=
  patterns [ownLabel, labelled "type" "rdf:type", labelled "birthPlace" bornAt,
    labelled "manuscript" ("^" ++ ownedBy), fromSource]

def placeProperties : String :=
  patterns [ownLabel, labelled "area" "gvp:broaderPreferred", fromSource]

def placePageProperties : String :=
  patterns [ownLabel, labelled "area" "gvp:broaderPreferred", coordinates, fromSource]

def placeWindowProperties : String :=
  patterns [ownLabel, coordinates]

/-- A query by its head, the patterns behind the filter and what follows them. -/
def query (head : String) (content : List String) (tail : List String) : String :=
  patterns (head :: braceLines "WHERE" content :: tail)

/-- The head and the tail of a query that counts entities at places. -/
def countedPlaces (counted pattern : String) : String :=
  query ("SELECT ?id ?prefLabel ?lat ?long (COUNT(DISTINCT " ++ counted ++ ") AS ?instanceCount)")
    ["<FILTER>", pattern, "?id wgs84:lat ?lat ;", "    wgs84:long ?long .", ownLabel]
    ["GROUP BY ?id ?prefLabel ?lat ?long"]

def allPlaces : String :=
  query "SELECT ?id ?prefLabel ?lat ?long"
    ["<FILTER>", "?id a crm:E53_Place ;", "    wgs84:lat ?lat ;", "    wgs84:long ?long .",
      ownLabel]
    []

def productionPlaces : String :=
  countedPlaces "?manuscripts" ("?manuscripts " ++ producedAt ++ " ?id .")

def productionCoordinates : String :=
  query "SELECT ?lat ?long"
    ["<FILTER>", "?manuscripts " ++ producedAt ++ " ?place .", "?place wgs84:lat ?lat ;",
      "       wgs84:long ?long ."]
    []

def lastKnownLocations : String :=
  countedPlaces "?manuscripts" ("?manuscripts " ++ lastKnownAt ++ " ?id .")

def placesOfActors : String :=
  countedPlaces "?actor__id" ("?actor__id " ++ bornAt ++ " ?id .")

def placesOfEvents : String :=
  countedPlaces "?event" "?event crm:P7_took_place_at ?id ."

def migrations : String :=
  query
    (patterns ["SELECT DISTINCT ?id ?manuscript__id ?manuscript__prefLabel",
      "  ?from__id ?from__prefLabel ?from__lat ?from__long",
      "  ?to__id ?to__prefLabel ?to__lat ?to__long"])
    ["<FILTER>",
      "?manuscript__id " ++ producedAt ++ " ?from__id ;",
      "                " ++ lastKnownAt ++ " ?to__id .",
      "FILTER(?from__id != ?to__id)",
      label "?manuscript__id" "?manuscript__prefLabel",
      "?from__id wgs84:lat ?from__lat ;",
      "          wgs84:long ?from__long .",
      label "?from__id" "?from__prefLabel",
      "?to__id wgs84:lat ?to__lat ;",
      "        wgs84:long ?to__long .",
      label "?to__id" "?to__prefLabel",
      "BIND(CONCAT(STR(?from__id), \" - \", STR(?to__id)) AS ?id)"]
    []

def eventsByPeriod : String :=
  query "SELECT ?id ?type__id (COUNT(DISTINCT ?event) AS ?type__instanceCount)"
    ["<PERIODS>", "<FILTER>", "?event crm:P4_has_time-span/" ++ spanStart ++ " ?start ;",
      "       rdf:type ?type__id .",
      "FILTER(?start >= ?periodStart && ?start <= ?periodEnd)",
      "BIND(?period AS ?id)"]
    ["GROUP BY ?id ?type__id", "ORDER BY ?id"]

def networkLinks : String :=
  query "SELECT ?source ?target (COUNT(DISTINCT ?owner) AS ?weight)"
    ["<FILTER>",
      "?source a frbroo:F4_Manifestation_Singleton ;",
      "        " ++ ownedBy ++ " ?owner .",
      "?target a frbroo:F4_Manifestation_Singleton ;",
      "        " ++ ownedBy ++ " ?owner .",
      "FILTER(STR(?source) < STR(?target))"]
    ["GROUP BY ?source ?target"]

def networkNodes : String :=
  query "SELECT ?id ?prefLabel ?class"
    ["VALUES ?id " ++ braced "<ID_SET>", ownLabel, "BIND(\"manuscript\" AS ?class)"]
    []

/-- A path continued to the label of its end. -/
def toLabel (path : String) : String :=
  path ++ "/skos:prefLabel"

def labelFacet : Facet :=
  (Facet.ofText "prefLabel" "skos:prefLabel").withPriority 1

/-- A facet whose values bear labels. -/
def labelledFacet (id path : String) (priority : UInt32) : Facet :=
  ((Facet.ofUris id path).withLabelPath (toLabel path)).withPriority priority

def sourceFacet : Facet :=
  labelledFacet "source" "dct:source" 9

/-- A facet of places, which expands to narrower places and takes boxes of a map. -/
def placeFacet (id path : String) (priority : UInt32) : Facet :=
  ((labelledFacet id path priority).withParent "gvp:broaderPreferred").withSpatial
    "wgs84:lat" "wgs84:long"

def timespanFacet (id path : String) (priority : UInt32) : Facet :=
  ((Facet.ofTimespan id path spanStart spanStop).withTimespanSort
    (path ++ "/" ++ spanStart) (path ++ "/" ++ spanStop)).withPriority priority

/-- A class that is sorted by its labels. -/
def labelledClass (id : String) (rdfClasses : List String) (properties : String)
    (facets : List Facet) : ResultClass :=
  { id, rdfClasses, properties, defaultSortKey := some "prefLabel",
    facets := labelFacet :: facets ++ [sourceFacet] }

def manuscripts : ResultClass :=
  labelledClass "manuscripts" ["frbroo:F4_Manifestation_Singleton"] manuscriptProperties
    [labelledFacet "author" producedBy 2,
      placeFacet "productionPlace" producedAt 3,
      timespanFacet "productionTimespan" producedDuring 4,
      labelledFacet "language" "crm:P128_carries/crm:P72_has_language" 5,
      labelledFacet "owner" ownedBy 6,
      placeFacet "lastKnownLocation" lastKnownAt 7]

def works : ResultClass :=
  labelledClass "works" ["frbroo:F1_Work"] workProperties
    [labelledFacet "author" initiatedBy 2,
      labelledFacet "language" "frbroo:R3_is_realised_in/crm:P72_has_language" 3]

def events : ResultClass :=
  labelledClass "events"
    ["crm:E10_Transfer_of_Custody", "crm:E12_Production", "mmm-schema:ManuscriptActivity"]
    eventProperties
    [placeFacet "place" "crm:P7_took_place_at" 1,
      (Facet.ofText "manuscript"
        (toLabel "(crm:P30_transferred_custody_of|crm:P108_has_produced)")).withPriority 2,
      timespanFacet "eventTimespan" "crm:P4_has_time-span" 3,
      labelledFacet "type" "rdf:type" 4]

def actors : ResultClass :=
  labelledClass "actors" ["crm:E21_Person", "crm:E74_Group", "crm:E39_Actor"] actorProperties
    [labelledFacet "type" "rdf:type" 2, placeFacet "birthPlace" bornAt 3]

def places : ResultClass :=
  labelledClass "places" ["crm:E53_Place"] placeProperties
    [(labelledFacet "area" "gvp:broaderPreferred" 2).withParent "gvp:broaderPreferred"]

/-- A listing of one query whose constraints are read with the facets of a class. -/
def listing (resultClass filterTarget facetClass : String) (query : ListingQuery)
    (shape : ResultShape) : ListingRoute :=
  { resultClass, facetClass := some facetClass, filterTarget, plain := ⟨query, shape⟩,
    grouped := none }

def listings : List ListingRoute :=
  [listing "placesAll" "id" "places" (.plain allPlaces) .objects,
    { listing "placesMsProduced" "manuscripts" "manuscripts" (.plain productionCoordinates)
        .coordinates with
      grouped := some ⟨.plain productionPlaces, .places⟩ },
    listing "lastKnownLocations" "manuscripts" "manuscripts" (.plain lastKnownLocations) .places,
    listing "placesActors" "actor__id" "actors" (.plain placesOfActors) .places,
    listing "placesMsMigrations" "manuscript__id" "manuscripts" (.plain migrations) .objects,
    { listing "placesEvents" "event" "events" (.plain placesOfEvents) .objects with
      grouped := some ⟨.plain placesOfEvents, .places⟩ },
    listing "eventsByTimePeriod" "event" "events" (.timeBuckets eventsByPeriod 1600 1620 10)
      .objects,
    listing "manuscriptsNetwork" "source" "manuscripts" (.plain networkLinks)
      (.network networkNodes)]

/-- A lookup whose constraints are read with the facets of its own class. -/
def page (resultClass properties : String) : LookupRoute :=
  { resultClass, facetClass := none, properties, relatedInstances := "" }

/-- The window of a map marker with the entities that are found at the place. -/
def window (resultClass facetClass relatedInstances : String) : LookupRoute :=
  { resultClass, facetClass := some facetClass, properties := placeWindowProperties,
    relatedInstances }

def lookups : List LookupRoute :=
  [page "manuscripts" manuscriptPageProperties,
    page "expressions" expressionProperties,
    page "collections" collectionProperties,
    page "works" workProperties,
    page "events" eventProperties,
    page "actors" actorProperties,
    page "places" placePageProperties,
    window "placesAll" "places" "",
    window "placesActors" "actors" (relatedOver bornAt),
    window "placesMsProduced" "manuscripts" (relatedOver producedAt),
    window "lastKnownLocations" "manuscripts" (relatedOver lastKnownAt),
    window "placesEvents" "events" ""]

/-- The complete portal. -/
def portal : Portal :=
  { prefixes, resultClasses := [manuscripts, works, events, actors, places], listings, lookups }

end FacetedQuery.Manuscripts
