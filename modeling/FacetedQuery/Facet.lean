import FacetedQuery.Constraint

/-!
# Facets

What a portal knows about one facet of a class: the kind of constraint it takes and the property
paths that lead from an entity to its values, to a label, up a hierarchy, to the ends of a time
span and to coordinates.
-/

namespace FacetedQuery

/-- The paths from the node of a time span to its ends, and the paths used for sorting. -/
structure TimespanPaths where
  start : String
  stop : String
  sortAscending : Option String
  sortDescending : Option String
deriving DecidableEq

/-- The paths to coordinates. -/
structure SpatialPaths where
  latitude : String
  longitude : String
deriving DecidableEq

/-- One facet of a class. -/
structure Facet where
  id : String
  kind : FilterKind
  /-- The path from an entity to the values of the facet. -/
  predicate : Option String
  /-- The path from an entity to a label. -/
  labelPath : Option String
  /-- The path from a concept to the concept directly above it. -/
  parent : Option String
  timespan : Option TimespanPaths
  spatial : Option SpatialPaths
  priority : UInt32
deriving DecidableEq

/-- A property path of a facet and the name of its part. -/
structure NamedPath where
  name : String
  path : String
deriving DecidableEq

namespace Facet

/-- A facet without paths. -/
def new (id : String) (kind : FilterKind) : Facet :=
  { id, kind, predicate := none, labelPath := none, parent := none, timespan := none,
    spatial := none, priority := 0 }

def withPredicate (facet : Facet) (path : String) : Facet :=
  { facet with predicate := some path }

def withLabelPath (facet : Facet) (path : String) : Facet :=
  { facet with labelPath := some path }

def withParent (facet : Facet) (path : String) : Facet :=
  { facet with parent := some path }

def withSpatial (facet : Facet) (latitude longitude : String) : Facet :=
  { facet with spatial := some ⟨latitude, longitude⟩ }

def withPriority (facet : Facet) (priority : UInt32) : Facet :=
  { facet with priority }

/-- Sets the paths for sorting; a facet without a time span stays as it is. -/
def withTimespanSort (facet : Facet) (ascending descending : String) : Facet :=
  { facet with
    timespan := facet.timespan.map fun paths =>
      { paths with sortAscending := some ascending, sortDescending := some descending } }

def ofUris (id predicate : String) : Facet :=
  (new id .uri).withPredicate predicate

def ofText (id labelPath : String) : Facet :=
  (new id .text).withLabelPath labelPath

def ofTimespan (id predicate start stop : String) : Facet :=
  { (new id .timespan).withPredicate predicate with timespan := some ⟨start, stop, none, none⟩ }

/-- A facet takes constraints of its own kind; one with coordinates takes boxes too. -/
def accepts (facet : Facet) (kind : FilterKind) : Bool :=
  kind == facet.kind || (kind == .spatial && facet.spatial.isSome)

def isHierarchical (facet : Facet) : Bool :=
  facet.parent.isSome

/-- A path that is present. -/
def optionalPath (name : String) (path : Option String) : List NamedPath :=
  path.toList.map (⟨name, ·⟩)

/-- Every path of a facet. -/
def paths (facet : Facet) : List NamedPath :=
  optionalPath "predicate" facet.predicate ++
  optionalPath "label path" facet.labelPath ++
  optionalPath "parent property" facet.parent ++
  (match facet.timespan with
    | none => []
    | some timespan =>
      ⟨"start property", timespan.start⟩ :: ⟨"end property", timespan.stop⟩ ::
        optionalPath "ascending sort predicate" timespan.sortAscending ++
        optionalPath "descending sort predicate" timespan.sortDescending) ++
  (match facet.spatial with
    | none => []
    | some spatial =>
      [⟨"latitude property", spatial.latitude⟩, ⟨"longitude property", spatial.longitude⟩])

end Facet

end FacetedQuery
