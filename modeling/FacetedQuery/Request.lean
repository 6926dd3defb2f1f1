import FacetedQuery.Page
import FacetedQuery.Portal

/-!
# Requests

The four things that can be asked of a portal.
-/

namespace FacetedQuery

inductive Request where
  /-- How many instances of a class satisfy the constraints. -/
  | count (resultClass : String) (constraints : Option ConstraintSet)
  /-- One sorted page of the instances of a class. -/
  | resultSet (resultClass : String) (constraints : Option ConstraintSet) (page : Page)
      (order : SortOrder)
  /-- The listing of a class, which has no pages. -/
  | listing (resultClass : String) (facetClass : Option String)
      (constraints : Option ConstraintSet) (groupBy : Bool)
  /-- One entity; the constraints restrict the entities related to it. -/
  | lookup (resultClass : String) (facetClass : Option String)
      (constraints : Option ConstraintSet) (uri : String)

/-- What a query is for. -/
inductive QueryPurpose where
  | count
  | resultSet
  | listing
  | lookup
deriving DecidableEq

/-- The name of a query in faults and events. -/
def QueryPurpose.name : QueryPurpose → String
  | .count => "count"
  | .resultSet => "result set"
  | .listing => "listing"
  | .lookup => "instance"

namespace Request

def purpose : Request → QueryPurpose
  | .count .. => .count
  | .resultSet .. => .resultSet
  | .listing .. => .listing
  | .lookup .. => .lookup

def resultClass : Request → String
  | .count resultClass _ => resultClass
  | .resultSet resultClass _ _ _ => resultClass
  | .listing resultClass _ _ _ => resultClass
  | .lookup resultClass _ _ _ => resultClass

end Request

end FacetedQuery
