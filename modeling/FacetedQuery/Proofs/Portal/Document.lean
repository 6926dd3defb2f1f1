import FacetedQuery.Portal.Document
import FacetedQuery.Proofs.Json.Fields

/-!
# Portals are read back

The document that describes a portal is read as this portal.
-/

namespace FacetedQuery

open Json

theorem FilterKind.ofJson?_name (kind : FilterKind) : ofJson? (.text kind.name) = some kind := by
  cases kind <;> decide

namespace TimespanPaths

theorem ofJson?_toJson (paths : TimespanPaths) : ofJson? paths.toJson = some paths := by
  simp [toJson, ofJson?, fields?_present, required?_present, optional?_present, Value.text?]

theorem isSpelt_toJson (paths : TimespanPaths) : paths.toJson.IsSpelt := by
  apply isSpelt_present
  simp

end TimespanPaths

namespace SpatialPaths

theorem ofJson?_toJson (paths : SpatialPaths) : ofJson? paths.toJson = some paths := by
  simp [toJson, ofJson?, fields?_object, Fields.required?, lookup, Value.text?]

theorem isSpelt_toJson (paths : SpatialPaths) : paths.toJson.IsSpelt := by
  simp [toJson, isSpelt_object]

end SpatialPaths

namespace Facet

theorem parentOfJson?_parentToJson (path : String) :
    parentOfJson? (parentToJson path) = some path := by
  simp [parentToJson, parentOfJson?, fields?_object, Fields.required?, lookup, Value.text?]

theorem ofJson?_toJson (facet : Facet) : ofJson? facet.toJson = some facet := by
  have parent := elim_nullable? facet.parent parentOfJson?_parentToJson nofun
  have timespan := elim_nullable? facet.timespan TimespanPaths.ofJson?_toJson nofun
  have spatial := elim_nullable? facet.spatial SpatialPaths.ofJson?_toJson nofun
  simp [toJson, ofJson?, fields?_present, required?_present, optional?_present,
    withDefault?_present, parent, timespan, spatial, FilterKind.ofJson?_name,
    unsigned32?_natural, Value.text?]

theorem isSpelt_toJson (facet : Facet) : facet.toJson.IsSpelt := by
  apply isSpelt_present
  simp [parentToJson, isSpelt_object, TimespanPaths.isSpelt_toJson, SpatialPaths.isSpelt_toJson]

end Facet

namespace PrefixDeclaration

theorem ofJson?_toJson (declaration : PrefixDeclaration) :
    ofJson? declaration.toJson = some declaration := by
  simp [toJson, ofJson?, fields?_object, Fields.required?, lookup, Value.text?]

theorem isSpelt_toJson (declaration : PrefixDeclaration) : declaration.toJson.IsSpelt := by
  simp [toJson, isSpelt_object]

end PrefixDeclaration

namespace ResultClass

theorem ofJson?_toJson (spec : ResultClass) : ofJson? spec.toJson = some spec := by
  have classes := list?_map spec.rdfClasses text?_text
  have facets := list?_map spec.facets Facet.ofJson?_toJson
  simp [toJson, ofJson?, fields?_present, required?_present, optional?_present,
    withDefault?_present, classes, facets, Value.text?]

theorem isSpelt_toJson (spec : ResultClass) : spec.toJson.IsSpelt := by
  have classes := isSpelt_map spec.rdfClasses Value.IsSpelt.text
  have facets := isSpelt_map spec.facets Facet.isSpelt_toJson
  apply isSpelt_present
  simp [classes, facets]

end ResultClass

namespace ResultShape

theorem ofJson?_toJson (shape : ResultShape) : ofJson? shape.toJson = some shape := by
  cases shape with
  | network nodesQuery =>
      simp [toJson, ofJson?, networkOfJson?, Value.alternative?, fields?_object, Fields.required?,
        lookup, Value.text?]
  | _ => rfl

theorem isSpelt_toJson (shape : ResultShape) : shape.toJson.IsSpelt := by
  cases shape <;> simp [toJson, isSpelt_object]

end ResultShape

namespace ListingQuery

theorem ofJson?_toJson (query : ListingQuery) : ofJson? query.toJson = some query := by
  cases query with
  | plain text => rfl
  | timeBuckets template startYear endYear periodLength =>
      simp [toJson, ofJson?, timeBucketsOfJson?, Value.alternative?, fields?_object,
        Fields.required?, lookup, signed32?_integer, unsigned32?_natural, Value.text?]

theorem isSpelt_toJson (query : ListingQuery) : query.toJson.IsSpelt := by
  cases query <;> simp [toJson, isSpelt_object]

end ListingQuery

namespace ListingVariant

theorem ofJson?_toJson (variant : ListingVariant) : ofJson? variant.toJson = some variant := by
  simp [toJson, ofJson?, fields?_object, Fields.required?, lookup, ListingQuery.ofJson?_toJson,
    ResultShape.ofJson?_toJson]

theorem isSpelt_toJson (variant : ListingVariant) : variant.toJson.IsSpelt := by
  simp [toJson, isSpelt_object, ListingQuery.isSpelt_toJson, ResultShape.isSpelt_toJson]

end ListingVariant

namespace ListingRoute

theorem ofJson?_toJson (route : ListingRoute) : ofJson? route.toJson = some route := by
  have grouped := elim_nullable? route.grouped ListingVariant.ofJson?_toJson nofun
  simp [toJson, ofJson?, fields?_present, required?_present, optional?_present, grouped,
    ListingVariant.ofJson?_toJson, Value.text?]

theorem isSpelt_toJson (route : ListingRoute) : route.toJson.IsSpelt := by
  apply isSpelt_present
  simp [ListingVariant.isSpelt_toJson]

end ListingRoute

namespace LookupRoute

theorem ofJson?_toJson (route : LookupRoute) : ofJson? route.toJson = some route := by
  simp [toJson, ofJson?, fields?_present, required?_present, optional?_present,
    withDefault?_present, Value.text?]

theorem isSpelt_toJson (route : LookupRoute) : route.toJson.IsSpelt := by
  apply isSpelt_present
  simp

end LookupRoute

namespace Portal

theorem ofJson?_toJson (portal : Portal) : ofJson? portal.toJson = some portal := by
  have prefixes := list?_map portal.prefixes PrefixDeclaration.ofJson?_toJson
  have classes := list?_map portal.resultClasses ResultClass.ofJson?_toJson
  have listings := list?_map portal.listings ListingRoute.ofJson?_toJson
  have lookups := list?_map portal.lookups LookupRoute.ofJson?_toJson
  simp [toJson, ofJson?, fields?_object, Fields.required?, Fields.withDefault?, Json.lookup,
    prefixes, classes, listings, lookups]

theorem isSpelt_toJson (portal : Portal) : portal.toJson.IsSpelt := by
  have prefixes := isSpelt_map portal.prefixes PrefixDeclaration.isSpelt_toJson
  have classes := isSpelt_map portal.resultClasses ResultClass.isSpelt_toJson
  have listings := isSpelt_map portal.listings ListingRoute.isSpelt_toJson
  have lookups := isSpelt_map portal.lookups LookupRoute.isSpelt_toJson
  simp [toJson, isSpelt_object, prefixes, classes, listings, lookups]

/-- A portal is read back from its document. -/
theorem read_compact (portal : Portal) : read portal.toJson.compact = .ok portal := by
  have text := read?_write (isSpelt_toJson portal)
  simp [read, Value.compact, text, ofJson?_toJson]

end Portal

end FacetedQuery
