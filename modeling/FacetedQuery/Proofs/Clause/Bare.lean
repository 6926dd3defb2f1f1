import FacetedQuery.Proofs.Clause.Spelling

/-!
# Clauses without placeholders

The text of a clause holds no placeholder if its property paths hold none and its literals are
quoted without one.  Variables and IRIs do not matter, whatever their names.
-/

namespace FacetedQuery

namespace Template

variable {text after : List Char} {glue : Char}

theorem free_append_cons (plain : glue ≠ '<') (outside : isInside glue = false) :
    Free (text ++ glue :: after) ↔ Free text ∧ Free after := by
  rw [free_append (by simpa using outside), free_cons_of_ne plain]

end Template

namespace Clause

open Rdf (Iri Variable)
open Template (Free free_append_cons free_cons free_cons_of_ne free_nil free_of_not_mem)

/-- What may not stand in a name stands in no variable. -/
theorem not_mem_variable (target : Variable) {character : Char} (noMark : character ≠ '?')
    (noStart : Rdf.Name.isStart character = false)
    (noRest : Rdf.Name.isVariableRest character = false) : character ∉ target.render.toList := by
  have wellFormed := target.wellFormed
  cases name : target.name.toList with
  | nil =>
      rw [name] at wellFormed
      cases wellFormed
  | cons first rest =>
      rw [name, Rdf.Name.isVariable, Bool.and_eq_true, List.all_eq_true] at wellFormed
      have apart : character ≠ first := by
        rintro rfl
        exact Bool.false_ne_true (noStart.symm.trans wellFormed.1)
      have outside : character ∉ rest := fun member =>
        Bool.false_ne_true (noRest.symm.trans (wellFormed.2 character member))
      simp [Variable.render, name, noMark, apart, outside]

theorem bracket_not_mem_variable (target : Variable) : '<' ∉ target.render.toList :=
  not_mem_variable target (by decide) (by decide) (by decide)

theorem free_variable (target : Variable) : Free target.render.toList :=
  free_of_not_mem (bracket_not_mem_variable target)

theorem free_iri (value : Iri) : Free value.render.toList := by
  simpa [Iri.render] using Template.free_iri value

theorem free_node (node : Node) : Free node.render.toList := by
  cases node with
  | var target => exact free_variable target
  | iri value => exact free_iri value

namespace Expression

mutual

/-- All literals are quoted without a placeholder. -/
def Quotes : Expression → Prop
  | .var _ => True
  | .iri _ => True
  | .literal value => Quotable value
  | .member value list => value.Quotes ∧ ListQuotes list
  | .conjunction left right => left.Quotes ∧ right.Quotes
  | .atLeast left right => left.Quotes ∧ right.Quotes
  | .atMost left right => left.Quotes ∧ right.Quotes
  | .bound _ => True
  | .call _ arguments => ListQuotes arguments
  | .cast _ value => value.Quotes

def ListQuotes : List Expression → Prop
  | [] => True
  | expression :: rest => expression.Quotes ∧ ListQuotes rest

end

theorem bracket_not_mem_name (function : Builtin) : '<' ∉ function.name.toList := by
  cases function <;> decide

theorem free_comparison (text : List Char) : Free ('<' :: '=' :: ' ' :: text) ↔ Free text := by
  rw [free_cons, free_cons_of_ne (by decide), free_cons_of_ne (by decide), and_iff_right]
  rintro ⟨first, name, rest, equality, upper, -⟩
  obtain ⟨-, rfl, -⟩ : '<' = '<' ∧ '=' = first ∧ _ := by simpa using equality
  cases upper

mutual

theorem free : (expression : Expression) → expression.Quotes → Free expression.render.toList
  | .var target, _ => free_variable target
  | .iri value, _ => free_iri value
  | .literal value, quotes => (spelled_literal quotes).free
  | .member value list, quotes => by
      have first := free value quotes.1
      have second := list_free list quotes.2
      simp (disch := decide) [render, free_append_cons, free_cons_of_ne, first, second, free_nil]
  | .conjunction left right, quotes => by
      have first := free left quotes.1
      have second := free right quotes.2
      simp (disch := decide) [render, free_append_cons, free_cons_of_ne, first, second, free_nil]
  | .atLeast left right, quotes => by
      have first := free left quotes.1
      have second := free right quotes.2
      simp (disch := decide) [render, free_append_cons, free_cons_of_ne, first, second, free_nil]
  | .atMost left right, quotes => by
      have first := free left quotes.1
      have second := free right quotes.2
      simp (disch := decide)
        [render, free_append_cons, free_cons_of_ne, free_comparison, first, second, free_nil]
  | .bound target, _ => by
      have name := free_variable target
      simp (disch := decide) [render, free_append_cons, free_cons_of_ne, name, free_nil]
  | .call function arguments, quotes => by
      have name := free_of_not_mem (bracket_not_mem_name function)
      have list := list_free arguments quotes
      simp (disch := decide) [render, free_append_cons, name, list, free_nil]
  | .cast datatype value, quotes => by
      have name := free_iri datatype
      have inner := free value quotes
      simp (disch := decide) [render, free_append_cons, name, inner, free_nil]

theorem list_free : (list : List Expression) → ListQuotes list → Free (renderList list).toList
  | [], _ => free_nil
  | [expression], quotes => free expression quotes.1
  | expression :: next :: rest, quotes => by
      have first := free expression quotes.1
      have others := list_free (next :: rest) quotes.2
      simp (disch := decide) [renderList, free_append_cons, free_cons_of_ne, first, others]

end

end Expression

theorem free_zeroOrMore (path : PropertyPath) (bare : Free path.text.toList) :
    Free path.zeroOrMore.text.toList := by
  simp (disch := decide) [PropertyPath.zeroOrMore, free_append_cons,
    free_cons_of_ne, bare, free_nil]

theorem free_iris (items : List Iri) : Free (Text.join " " (items.map Iri.render)).toList := by
  induction items with
  | nil => exact free_nil
  | cons item items induction =>
      have first := free_iri item
      cases items with
      | nil => exact first
      | cons next items =>
          rw [List.map_cons] at induction
          simp (disch := decide) [Text.join, free_append_cons, first, induction]

namespace Pattern

mutual

/-- No property path holds a placeholder, and no literal does. -/
def Bare : Pattern → Prop
  | .triple _ path _ => Free path.text.toList
  | .values _ _ => True
  | .optional elements => ListBare elements
  | .filter condition => condition.Quotes

def ListBare : List Pattern → Prop
  | [] => True
  | element :: rest => element.Bare ∧ ListBare rest

end

mutual

/-- All property paths are of a kind, and no literal holds a placeholder. -/
def Uses (kind : String → Prop) : Pattern → Prop
  | .triple _ path _ => kind path.text
  | .values _ _ => True
  | .optional elements => ListUses kind elements
  | .filter condition => condition.Quotes

def ListUses (kind : String → Prop) : List Pattern → Prop
  | [] => True
  | element :: rest => element.Uses kind ∧ ListUses kind rest

end

mutual

theorem bare_of_uses : (pattern : Pattern) → pattern.Uses (fun path => Free path.toList) →
    pattern.Bare
  | .triple _ _ _, uses => uses
  | .values _ _, _ => trivial
  | .optional elements, uses => listBare_of_uses elements uses
  | .filter _, uses => uses

theorem listBare_of_uses : (elements : List Pattern) →
    ListUses (fun path => Free path.toList) elements → ListBare elements
  | [], _ => trivial
  | element :: rest, uses => ⟨bare_of_uses element uses.1, listBare_of_uses rest uses.2⟩

end

theorem listUses_append {kind : String → Prop} {first second : List Pattern}
    (usesFirst : ListUses kind first) (usesSecond : ListUses kind second) :
    ListUses kind (first ++ second) := by
  induction first with
  | nil => exact usesSecond
  | cons element first induction => exact ⟨usesFirst.1, induction usesFirst.2⟩

mutual

theorem free : (pattern : Pattern) → pattern.Bare → Free pattern.render.toList
  | .triple subject path object, bare => by
      have first := free_node subject
      have second := free_node object
      have middle : Free path.text.toList := bare
      simp (disch := decide) [render, free_append_cons, free_cons_of_ne, first, second, middle,
        free_nil]
  | .values target items, _ => by
      have name := free_variable target
      have list := free_iris items
      simp (disch := decide) [render, Text.braced, Text.openBrace, Text.closeBrace,
        free_append_cons, free_cons_of_ne, name, list, free_nil]
  | .optional elements, bare => by
      have inner := list_free elements bare
      simp (disch := decide) [render, Text.braced, Text.openBrace, Text.closeBrace,
        free_append_cons, free_cons_of_ne, inner, free_nil]
  | .filter condition, bare => by
      have inner := condition.free bare
      simp (disch := decide) [render, free_append_cons, free_cons_of_ne, inner, free_nil]

theorem list_free : (elements : List Pattern) → ListBare elements →
    Free (renderList elements).toList
  | [], _ => free_nil
  | [element], bare => free element bare.1
  | element :: next :: rest, bare => by
      have first := free element bare.1
      have others := list_free (next :: rest) bare.2
      simp (disch := decide) [renderList, free_append_cons, first, others]

end

theorem free_lines : (elements : List Pattern) → ListBare elements →
    Free (Text.join "\n" (elements.map render)).toList
  | [], _ => free_nil
  | [element], bare => free element bare.1
  | element :: next :: rest, bare => by
      have first := free element bare.1
      have others := free_lines (next :: rest) bare.2
      rw [List.map_cons] at others
      simp (disch := decide) [Text.join, free_append_cons, first, others]

end Pattern

end Clause

end FacetedQuery
