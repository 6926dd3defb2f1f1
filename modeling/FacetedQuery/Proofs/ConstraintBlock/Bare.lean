import FacetedQuery.Proofs.Clause.Bare
import FacetedQuery.Proofs.ConstraintBlock.Spelling

/-!
# Blocks without placeholders

Whatever users give, a block holds no placeholder if the paths of the portal hold none.
-/

namespace FacetedQuery

open Clause (Expression Pattern PropertyPath)
open Rdf (Iri Variable)
open Template (Free)

/-- A path without a placeholder. -/
def BarePath (path : String) : Prop :=
  Free path.toList

namespace Filter

variable {kind : String → Prop} {facetClass : String} {facet : Facet} {target : Variable}
  {value : FilterValue} {patterns : List Pattern}

theorem quotes_members (items : List Iri) : Expression.ListQuotes (items.map .iri) := by
  induction items with
  | nil => trivial
  | cons item items induction => exact ⟨trivial, induction⟩

theorem uses_location {located latitude longitude : Variable} {paths : SpatialPaths}
    (isKind : kind paths.latitude ∧ kind paths.longitude) (corners : GeoBox) :
    Pattern.ListUses kind (ofLocation located latitude longitude paths corners) :=
  ⟨isKind.1, isKind.2, ⟨⟨⟨trivial, quotable_double _⟩, trivial, quotable_double _⟩,
    ⟨trivial, quotable_double _⟩, trivial, quotable_double _⟩, trivial⟩

/-- The patterns of a facet use its paths, one of which may be repeated. -/
theorem uses_patterns
    (repeated : ∀ path : PropertyPath, kind path.text → kind path.zeroOrMore.text)
    (paths : FilterPaths kind facet)
    (made : Filter.patterns facetClass facet target value = .ok patterns) :
    Pattern.ListUses kind patterns := by
  cases patterns_eq_ok.mp made with
  | exact path => exact ⟨paths.predicate _ path, ⟨trivial, quotes_members _⟩, trivial⟩
  | concepts path up =>
      exact ⟨trivial, repeated ⟨_⟩ (paths.parent _ up), paths.predicate _ path, trivial⟩
  | text found =>
      exact ⟨paths.labelPath _ found, ⟨⟨⟨trivial, trivial⟩, trivial⟩, quotable_text _, trivial⟩,
        trivial⟩
  | @timespan min max _ _ _ _ _ path found =>
      have isKind := paths.timespan _ found
      refine Pattern.listUses_append
        ⟨paths.predicate _ path, ⟨isKind.1, trivial⟩, ⟨isKind.2, trivial⟩, trivial⟩ ?_
      cases min <;> cases max <;>
        simp [overlapConditions, Expression.all?, dateLiteral, Pattern.ListUses, Pattern.Uses,
          Expression.Quotes, Expression.ListQuotes, quotable_date]
  | place _ found => exact uses_location (paths.spatial _ found) _
  | located path found =>
      exact ⟨paths.predicate _ path, uses_location (paths.spatial _ found) _⟩

end Filter

/-- A portal whose class names, paths and properties hold no placeholder. -/
structure Portal.Bare (portal : Portal) : Prop where
  classes : ∀ spec ∈ portal.resultClasses, ∀ name ∈ spec.rdfClasses, Free name.toList
  properties : ∀ spec ∈ portal.resultClasses, Free spec.properties.toList
  paths : ∀ spec ∈ portal.resultClasses, ∀ facet ∈ spec.facets, ∀ named ∈ facet.paths,
    BarePath named.path

namespace ConstraintBlock

variable {portal : Portal} {facetClass filterTarget : String} {spec : ResultClass}
  {target : Variable} {constraints : Option ConstraintSet} {block : ConstraintBlock}

theorem uses_fragments {kind : String → Prop}
    (repeated : ∀ path : PropertyPath, kind path.text → kind path.zeroOrMore.text)
    {entries : List (String × Constraint)} {fragments : List (List Pattern)}
    (paths : ∀ entry ∈ entries, ∀ facet, spec.facet? entry.1 = some facet →
      ∀ named ∈ facet.paths, kind named.path)
    (made : entries.mapM (fragment facetClass spec target) = .ok fragments) :
    Pattern.ListUses kind fragments.flatten :=
  satisfies_flatten trivial Pattern.listUses_append (fun entry member _ facet _ parts =>
    Filter.uses_patterns repeated (.ofPaths (paths entry member facet parts.known)) parts.made) made

/-- The patterns of a composed block use the paths of the portal. -/
theorem uses_of_compose {kind : String → Prop}
    (repeated : ∀ path : PropertyPath, kind path.text → kind path.zeroOrMore.text)
    (paths : ∀ spec ∈ portal.resultClasses, ∀ facet ∈ spec.facets, ∀ named ∈ facet.paths,
      kind named.path)
    (composed : compose portal facetClass constraints filterTarget = .ok block) :
    Pattern.ListUses kind block.elements := by
  rcases compose_eq_ok.mp composed with ⟨-, rfl⟩ | ⟨-, spec, target, fragments, known, -, made, rfl⟩
  · trivial
  · exact uses_fragments repeated (fun _ _ facet found => paths spec
      (Portal.mem_of_resultClass known) facet (List.mem_of_find?_eq_some found)) made

theorem free_render (bare : Pattern.ListBare block.elements) : Free block.render.toList := by
  unfold render
  split
  · decide
  · exact Pattern.free_lines block.elements bare

theorem free_of_compose (bare : portal.Bare)
    (composed : compose portal facetClass constraints filterTarget = .ok block) :
    Free block.render.toList :=
  free_render (Pattern.listBare_of_uses block.elements
    (uses_of_compose Clause.free_zeroOrMore bare.paths composed))

end ConstraintBlock

end FacetedQuery
