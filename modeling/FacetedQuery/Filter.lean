import FacetedQuery.Clause
import FacetedQuery.Facet
import FacetedQuery.Text.Lowercase

/-!
# Filters

The patterns by which one constraint restricts a variable.  Every variable they bind has the id of
the facet and a suffix as its name, so that the patterns of different facets do not meet.
-/

namespace FacetedQuery

open Clause (Expression Pattern PropertyPath)
open Rdf (Iri Literal Variable)

/-- The value of a constraint after it was checked. -/
inductive FilterValue where
  | uris (items : List Iri) (withSubconcepts : Bool)
  | text (content : String)
  | timespan (min max : Option Calendar.Date)
  | box (corners : GeoBox)

/-- The variable of a facet with a suffix. -/
def facetVariable (facet suffix : String) : Except ConfigurationFault Variable :=
  match Variable.ofName? (facet ++ suffix) with
  | some target => .ok target
  | none => .error (.invalidVariableName facet)

namespace Filter

/-- A facet and the class that faults name for it. -/
structure Context where
  facetClass : String
  facet : Facet
  target : Variable

namespace Context

def fresh (context : Context) (suffix : String) : Except ConfigurationFault Variable :=
  facetVariable context.facet.id suffix

def missing (context : Context) (property : String) : ConfigurationFault :=
  .missingFacetProperty context.facetClass context.facet.id property

/-- The path to the values of the facet. -/
def predicate (context : Context) : Except ConfigurationFault String :=
  match context.facet.predicate with
  | some path => .ok path
  | none => .error (.missingPredicate context.facetClass context.facet.id)

/-- A part of the facet that a filter needs. -/
def need (context : Context) (part : Option α) (property : String) :
    Except ConfigurationFault α :=
  match part with
  | some found => .ok found
  | none => .error (context.missing property)

end Context

/-- A value of the facet is one of the given ones. -/
def ofExactUris (target value : Variable) (predicate : String) (items : List Iri) :
    List Pattern :=
  [.link target predicate value, .filter (.member (.var value) (items.map .iri))]

/-- A value of the facet lies at or below one of the given ones. -/
def ofConcepts (target value below : Variable) (predicate parent : String) (items : List Iri) :
    List Pattern :=
  [.values value items,
    .triple (.var below) (PropertyPath.zeroOrMore ⟨parent⟩) (.var value),
    .link target predicate below]

def ofUris (context : Context) (items : List Iri) (withSubconcepts : Bool) :
    Except ConfigurationFault (List Pattern) := do
  let predicate ← context.predicate
  let value ← context.fresh "Filter"
  if withSubconcepts then
    let parent ← context.need context.facet.parent "parent property"
    let below ← context.fresh "FilterWithSubconcepts"
    return ofConcepts context.target value below predicate parent items
  else
    return ofExactUris context.target value predicate items

/-- A label holds a text, whatever the case of the letters. -/
def ofText (context : Context) (content : String) : Except ConfigurationFault (List Pattern) := do
  let labelPath ← context.need context.facet.labelPath "label path"
  let label ← context.fresh "Label"
  let lowercased := Expression.call .lcase [.call .str [.var label]]
  return [.link context.target labelPath label,
    .filter (.call .contains [lowercased, .literal (.plain (Text.lowercase content))])]

def dateLiteral (date : Calendar.Date) : Expression :=
  .literal (.typed date.render Rdf.xsdDate)

/-- What a time span with the given ends has to satisfy; an end that is missing is taken from the
other one. -/
def overlapConditions (start stop : Variable) (min max : Option Calendar.Date) :
    List Expression :=
  let earliest := Expression.call .coalesce [.var start, .var stop]
  let latest := Expression.call .coalesce [.var stop, .var start]
  (max.map fun date => Expression.atMost earliest (dateLiteral date)).toList ++
    (min.map fun date => Expression.atLeast latest (dateLiteral date)).toList

/-- The time span of an entity meets a range. -/
def ofTimespan (context : Context) (min max : Option Calendar.Date) :
    Except ConfigurationFault (List Pattern) := do
  let predicate ← context.predicate
  let paths ← context.need context.facet.timespan "timespan start and end properties"
  let span ← context.fresh "Timespan"
  let start ← context.fresh "Start"
  let stop ← context.fresh "End"
  return [.link context.target predicate span,
      .optional [.link span paths.start start],
      .optional [.link span paths.stop stop]] ++
    (Expression.all? (overlapConditions start stop min max)).toList.map .filter

/-- A coordinate lies between two numbers. -/
def between (coordinate : Variable) (low high : Float) : Expression :=
  let number := Expression.cast Rdf.xsdDouble (.var coordinate)
  .conjunction (.atLeast number (.literal (.double low)))
    (.atMost number (.literal (.double high)))

/-- The coordinates of a node lie in a box. -/
def ofLocation (located latitude longitude : Variable) (paths : SpatialPaths) (box : GeoBox) :
    List Pattern :=
  [.link located paths.latitude latitude,
    .link located paths.longitude longitude,
    .filter (.conjunction (between latitude box.latMin box.latMax)
      (between longitude box.longMin box.longMax))]

/-- An entity lies in a box.  Without a predicate it bears the coordinates itself. -/
def ofBox (context : Context) (box : GeoBox) : Except ConfigurationFault (List Pattern) := do
  let paths ← context.need context.facet.spatial "latitude and longitude properties"
  let latitude ← context.fresh "Lat"
  let longitude ← context.fresh "Long"
  match context.facet.predicate with
  | some predicate =>
    let located ← context.fresh "Filter"
    return .link context.target predicate located ::
      ofLocation located latitude longitude paths box
  | none => return ofLocation context.target latitude longitude paths box

/-- The patterns that restrict a variable by a value of a facet. -/
def patterns (facetClass : String) (facet : Facet) (target : Variable) (value : FilterValue) :
    Except ConfigurationFault (List Pattern) :=
  let context : Context := ⟨facetClass, facet, target⟩
  match value with
  | .uris items withSubconcepts => ofUris context items withSubconcepts
  | .text content => ofText context content
  | .timespan min max => ofTimespan context min max
  | .box corners => ofBox context corners

end Filter

end FacetedQuery
