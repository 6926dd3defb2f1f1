import FacetedQuery.Proofs.ConstraintBlock.Bare
import FacetedQuery.Proofs.Template.Holds

/-!
# Blocks in templates

A block neither starts nor ends like a part of a placeholder, so that filling it in brings no
placeholder about, whatever stands around its place.
-/

namespace FacetedQuery

open Clause (Pattern)
open Rdf (Iri)
open Template (Free Sealed)

namespace Clause

theorem sealed_iri (iri : Iri) : Sealed iri.render.toList := by
  have isText : iri.render.toList = "<".toList ++ (iri.text.toList ++ ">".toList) := by
    simp [Iri.render]
  rw [isText]
  exact .around (by decide) (by decide) (by decide) _

theorem sealed_iris {items : List Iri} (nonempty : items ≠ []) :
    Sealed (Text.join " " (items.map Iri.render)).toList := by
  refine .join (by simpa using nonempty) fun text member => ?_
  obtain ⟨item, -, rfl⟩ := List.mem_map.mp member
  exact sealed_iri item

theorem breaks_node (node : Node) : Template.Breaks node.render.toList := by
  cases node with
  | var target =>
      exact ⟨'?', by simp [Node.render, Rdf.Variable.render, Template.isNameChar], by decide⟩
  | iri value => exact (sealed_iri value).front

/-- A pattern starts with a sign or with a keyword and a blank, and it ends with a sign. -/
theorem Pattern.sealed (pattern : Pattern) : Sealed pattern.render.toList := by
  cases pattern with
  | triple subject path object =>
      have isText : (triple subject path object).render.toList = subject.render.toList ++
          ((" " ++ path.text ++ " " ++ object.render ++ " ").toList ++ ".".toList) := by
        simp [render]
      rw [isText]
      exact .around (breaks_node subject) (by decide) (by decide) _
  | values target items =>
      have isText : (values target items).render.toList = "VALUES ".toList ++
          ((target.render ++ " \x7b " ++ Text.join " " (items.map Iri.render) ++ " ").toList ++
            "\x7d".toList) := by
        simp [render, Text.braced, Text.openBrace, Text.closeBrace]
      rw [isText]
      exact .around (by decide) (by decide) (by decide) _
  | optional elements =>
      have isText : (optional elements).render.toList = "OPTIONAL ".toList ++
          (("\x7b " ++ renderList elements ++ " ").toList ++ "\x7d".toList) := by
        simp [render, Text.braced, Text.openBrace, Text.closeBrace]
      rw [isText]
      exact .around (by decide) (by decide) (by decide) _
  | filter condition =>
      have isText : (filter condition).render.toList = "FILTER(".toList ++
          (condition.render.toList ++ ")".toList) := by
        simp [render]
      rw [isText]
      exact .around (by decide) (by decide) (by decide) _

end Clause

namespace ConstraintBlock

variable {portal : Portal} {facetClass filterTarget : String} {constraints : Option ConstraintSet}
  {block : ConstraintBlock}

theorem sealed_render (block : ConstraintBlock) : Sealed block.render.toList := by
  unfold render
  split
  · exact ⟨by decide, by decide⟩
  · next shown =>
    have nonempty : block.elements ≠ [] := by simpa [isEmpty] using shown
    refine .join (by simpa using nonempty) fun text member => ?_
    obtain ⟨pattern, -, rfl⟩ := List.mem_map.mp member
    exact pattern.sealed

theorem free_of_named (bare : ∀ spec, portal.resultClass facetClass = .ok spec →
      ∀ entry ∈ active constraints, ∀ facet, spec.facet? entry.1 = some facet →
        ∀ named ∈ facet.paths, BarePath named.path)
    (composed : compose portal facetClass constraints filterTarget = .ok block) :
    Free block.render.toList := by
  refine free_render (Pattern.listBare_of_uses block.elements ?_)
  rcases compose_eq_ok.mp composed with ⟨-, rfl⟩ | ⟨-, spec, target, fragments, known, -, made, rfl⟩
  · trivial
  · exact uses_fragments Clause.free_zeroOrMore (bare spec known) made

end ConstraintBlock

end FacetedQuery
