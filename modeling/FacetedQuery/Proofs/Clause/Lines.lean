import FacetedQuery.Proofs.Clause.Bare

/-!
# Clauses on single lines

A clause stands on one line if its property paths do, and something can be seen on it.  Literals
are escaped, and names hold no line feed.
-/

namespace FacetedQuery.Clause

open Rdf (Iri Variable)

theorem feed_not_mem_variable (target : Variable) : '\n' ∉ target.render.toList :=
  not_mem_variable target (by decide) (by decide) (by decide)

theorem feed_not_mem_node (node : Node) : '\n' ∉ node.render.toList := by
  cases node with
  | var target => exact feed_not_mem_variable target
  | iri value => exact (spelled_iri value).line

theorem feed_not_mem_iris (items : List Iri) :
    '\n' ∉ (Text.join " " (items.map Iri.render)).toList :=
  (spelled_iris items).line

namespace Expression

theorem feed_not_mem_name (function : Builtin) : '\n' ∉ function.name.toList := by
  cases function <;> decide

mutual

theorem line : (expression : Expression) → expression.Quotes → '\n' ∉ expression.render.toList
  | .var target, _ => feed_not_mem_variable target
  | .iri value, _ => (spelled_iri value).line
  | .literal value, quotes => (spelled_literal quotes).line
  | .member value list, quotes => by
      have first := line value quotes.1
      have second := list_line list quotes.2
      simp [render, first, second]
  | .conjunction left right, quotes => by
      have first := line left quotes.1
      have second := line right quotes.2
      simp [render, first, second]
  | .atLeast left right, quotes => by
      have first := line left quotes.1
      have second := line right quotes.2
      simp [render, first, second]
  | .atMost left right, quotes => by
      have first := line left quotes.1
      have second := line right quotes.2
      simp [render, first, second]
  | .bound target, _ => by
      have name := feed_not_mem_variable target
      simp [render, name]
  | .call function arguments, quotes => by
      have name := feed_not_mem_name function
      have list := list_line arguments quotes
      simp [render, name, list]
  | .cast datatype value, quotes => by
      have name := (spelled_iri datatype).line
      have inner := line value quotes
      simp [render, name, inner]

theorem list_line : (list : List Expression) → ListQuotes list → '\n' ∉ (renderList list).toList
  | [], _ => by simp [renderList]
  | [expression], quotes => line expression quotes.1
  | expression :: next :: rest, quotes => by
      have first := line expression quotes.1
      have others := list_line (next :: rest) quotes.2
      simp [renderList, first, others]

end

end Expression

/-- A property path on one line. -/
def LinePath (path : String) : Prop :=
  '\n' ∉ path.toList

theorem linePath_zeroOrMore (path : PropertyPath) (line : LinePath path.text) :
    LinePath path.zeroOrMore.text := by
  unfold LinePath at line ⊢
  simp [PropertyPath.zeroOrMore, line]

namespace Pattern

mutual

theorem line : (pattern : Pattern) → pattern.Uses LinePath → '\n' ∉ pattern.render.toList
  | .triple subject path object, uses => by
      have first := feed_not_mem_node subject
      have second := feed_not_mem_node object
      have middle : '\n' ∉ path.text.toList := uses
      simp [render, first, second, middle]
  | .values target items, _ => by
      have name := feed_not_mem_variable target
      have list := feed_not_mem_iris items
      simp [render, Text.braced, Text.openBrace, Text.closeBrace, name, list]
  | .optional elements, uses => by
      have inner := list_line elements uses
      simp [render, Text.braced, Text.openBrace, Text.closeBrace, inner]
  | .filter condition, uses => by
      have inner := condition.line uses
      simp [render, inner]

theorem list_line : (elements : List Pattern) → ListUses LinePath elements →
    '\n' ∉ (renderList elements).toList
  | [], _ => by simp [renderList]
  | [element], uses => line element uses.1
  | element :: next :: rest, uses => by
      have first := line element uses.1
      have others := list_line (next :: rest) uses.2
      simp [renderList, first, others]

end

theorem line_of_mem {elements : List Pattern} (uses : ListUses LinePath elements)
    {element : Pattern} (member : element ∈ elements) : '\n' ∉ element.render.toList := by
  induction elements with
  | nil => cases member
  | cons first rest induction =>
      rcases List.mem_cons.mp member with rfl | member
      · exact element.line uses.1
      · exact induction uses.2 member

theorem visible (pattern : Pattern) : Text.visible pattern.render.toList = true := by
  cases pattern with
  | triple subject path object =>
      have shown := visible_node subject (" " ++ path.text ++ " " ++ object.render ++ " .").toList
      simpa [render] using shown
  | values target items =>
      rw [render, String.append_assoc, String.append_assoc, String.toList_append]
      exact Text.visible_append (by decide) _
  | optional elements =>
      rw [render, String.toList_append]
      exact Text.visible_append (by decide) _
  | filter condition =>
      rw [render, String.append_assoc, String.toList_append]
      exact Text.visible_append (by decide) _

end Pattern

end FacetedQuery.Clause
