import FacetedQuery.Template

/-!
# The queries of all classes

The three templates that do not belong to a route: the number of the instances of a class, one
page of them, and the properties of a single entity.
-/

namespace FacetedQuery.Template

open Text (braced groupLines)

/-- What the instances of a class have to satisfy. -/
def instancePatterns : List String :=
  ["<FILTER>", "VALUES ?facetClass " ++ braced "<FACET_CLASS>", "?id a ?facetClass ."]

/-- Counts the instances of a class that satisfy the filter. -/
def countQuery : String :=
  Text.join "\n" ("SELECT (COUNT(DISTINCT ?id) AS ?count)" :: groupLines "WHERE" instancePatterns)

/-- Selects the entities of one page with the values they are sorted by. -/
def pageOfIds : List String :=
  groupLines "" <|
    "SELECT ?id (<ORDER_BY_AGGREGATE>(?orderByValue) AS ?orderBy)" ::
      groupLines "WHERE" (instancePatterns ++ ["<ORDER_BY_TRIPLE>"]) ++
      ["GROUP BY ?id", "<ORDER_BY>", "<PAGE>"]

/-- Selects the columns of the entities of one page. -/
def resultSetQuery : String :=
  Text.join "\n" <|
    "SELECT *" ::
      groupLines "WHERE" (pageOfIds ++ ["FILTER(BOUND(?id))", "<RESULT_SET_PROPERTIES>"]) ++
      ["<ORDER_BY>"]

/-- Selects the properties of one entity and of the entities related to it. -/
def instanceQuery : String :=
  Text.join "\n" <|
    "SELECT *" ::
      groupLines "WHERE" ["BIND(<ID> AS ?id)", "<PROPERTIES>", "<RELATED_INSTANCES>"]

end FacetedQuery.Template
