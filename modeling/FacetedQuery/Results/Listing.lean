import FacetedQuery.Portal
import FacetedQuery.Results.Network
import FacetedQuery.Results.Objects

/-!
# Listings

The data of a listing in the shape that its route asks for.
-/

namespace FacetedQuery

inductive ListingData where
  | objects (list : List Record)
  | places (list : List Place)
  | coordinates (list : List Coordinates)
  | network (graph : NetworkGraph)

namespace ListingData

def toJson : ListingData → Json.Value
  | .objects list => .array (list.map Record.toJson)
  | .places list => .array (list.map Place.toJson)
  | .coordinates list => .array (list.map Coordinates.toJson)
  | .network graph => graph.toJson

end ListingData

/-- The data of a listing that needs one query. -/
def readListing (shape : ResultShape) (rows : List Solution) : Except MappingFault ListingData :=
  match shape with
  | .places => .places <$> readPlaces rows
  | .coordinates => .coordinates <$> readCoordinates rows
  | .objects => .objects <$> readObjects rows
  | .count => .error (.unsupportedShape "count")
  | .network _ => .error (.unsupportedShape "network")

end FacetedQuery
