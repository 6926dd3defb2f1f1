import FacetedQuery.Proofs.Clause.Reading
import FacetedQuery.Proofs.Clause.Spelling
import FacetedQuery.Proofs.Sparql.Group
import FacetedQuery.Proofs.Sparql.Query

/-!
# Patterns are parts of groups

The tokens of patterns between variables are elements of a group wherever they stand.  They bind the
variables of the patterns, assign to none and hold no aggregate.
-/

namespace FacetedQuery.Clause

open Rdf (Literal Variable)
open Sparql (Prologue)
open Sparql.Grammar

namespace Expression

mutual

theorem noAggregate : (expression : Expression) → expression.tree.isAggregated = false
  | .var _ => rfl
  | .iri _ => rfl
  | .literal _ => rfl
  | .member value list => by
      simp [tree, Sparql.Expression.isAggregated, noAggregate value, list_noAggregate list]
  | .conjunction left right => by
      simp [tree, Sparql.Expression.isAggregated, noAggregate left, noAggregate right]
  | .atLeast left right => by
      simp [tree, Sparql.Expression.isAggregated, noAggregate left, noAggregate right]
  | .atMost left right => by
      simp [tree, Sparql.Expression.isAggregated, noAggregate left, noAggregate right]
  | .bound _ => rfl
  | .call _ arguments => by
      simp [Sparql.Expression.isAggregated, list_noAggregate arguments]
  | .cast _ value => by
      simp [tree, Sparql.Expression.isAggregated, Sparql.anyAggregated, noAggregate value]

theorem list_noAggregate : (list : List Expression) → Sparql.anyAggregated (listTree list) = false
  | [] => rfl
  | expression :: rest => by
      simp [listTree, Sparql.anyAggregated, noAggregate expression, list_noAggregate rest]

end

end Expression

open Expression (IsWhole)

theorem forms_filter {condition : Expression} (legible : condition.Legible) :
    Forms ((Pattern.filter condition).pieces.map Piece.token) [] [] := by
  have finds : ∀ rest, Finds Readers.expression (condition.tokens ++ .mark .closeParen :: rest)
      condition.tree (.mark .closeParen :: rest) := fun rest =>
    (readBack condition legible).expression
      (by simp only [List.length_append, List.length_cons]; omega) (.cons (by simp [closers]) rest)
  simpa [Pattern.pieces, Piece.word, Piece.mark, Piece.token, Expression.tokens] using
    Forms.filter condition.noAggregate finds

namespace Pattern

mutual

/-- Triples link variables by paths, and conditions are legible. -/
def Legible : Pattern → Prop
  | .triple (.var subject) path (.var object) =>
    IsWhole subject ∧ ArePath path.tokens ∧ IsWhole object
  | .triple _ _ _ => False
  | .values target _ => IsWhole target
  | .optional elements => ListLegible elements
  | .filter condition => condition.Legible

def ListLegible : List Pattern → Prop
  | [] => True
  | element :: rest => element.Legible ∧ ListLegible rest

end

/-- The variables of the subject or the object of a triple. -/
def nodeScope : Node → List String
  | .var target => [target.name]
  | .iri _ => []

mutual

/-- The variables that a pattern binds. -/
def scope : Pattern → List String
  | .triple subject _ object => nodeScope subject ++ nodeScope object
  | .values target _ => [target.name]
  | .optional elements => listScope elements
  | .filter _ => []

def listScope : List Pattern → List String
  | [] => []
  | element :: rest => element.scope ++ listScope rest

end

mutual

/-- A legible pattern is a part of a group. -/
theorem forms : (pattern : Pattern) → pattern.Legible →
    Forms (pattern.pieces.map Piece.token) pattern.scope []
  | .triple (.var subject) path (.var object), ⟨whole, arePath, wholeObject⟩ => by
      simpa [pieces, Node.pieces, PropertyPath.pieces, tokens_variable whole,
        tokens_variable wholeObject, Function.comp_def, Piece.token, Piece.mark, scope, nodeScope]
        using Forms.link arePath subject.name object.name
  | .values target items, whole => by
      simpa [pieces, tokens_variable whole, Piece.token, Piece.word, Piece.mark, scope,
        Function.comp_def] using
        Forms.values target.name (items.map fun item => .iri item.text)
  | .optional elements, legible => by
      simpa [pieces, Piece.token, Piece.word, Piece.mark, scope] using
        (list_forms elements legible).optional
  | .filter condition, legible => by
      simpa [scope] using forms_filter legible

theorem list_forms : (elements : List Pattern) → ListLegible elements →
    Forms ((listPieces elements).map Piece.token) (listScope elements) []
  | [], _ => .nil
  | element :: rest, ⟨legible, listLegible⟩ => by
      simpa [listPieces, listScope] using
        (forms element legible).appendPlain (list_forms rest listLegible)

end

end Pattern

section

variable {prologue : Prologue}

/-- Pieces all of whose tokens mean something. -/
def Admitted (prologue : Prologue) (pieces : List Piece) : Prop :=
  ∀ piece ∈ pieces, prologue.admits piece.token = true

theorem Admitted.nil : Admitted prologue [] := by
  simp [Admitted]

theorem admitted_append {first second : List Piece} :
    Admitted prologue (first ++ second) ↔ Admitted prologue first ∧ Admitted prologue second := by
  simp [Admitted, or_imp, forall_and]

theorem admitted_cons {piece : Piece} {pieces : List Piece} :
    Admitted prologue (piece :: pieces) ↔
      prologue.admits piece.token = true ∧ Admitted prologue pieces := by
  simp [Admitted]

theorem admitted_word (letters : String) : prologue.admits (Piece.word letters).token = true :=
  rfl

theorem admitted_mark (mark : Sparql.Mark) : prologue.admits (Piece.mark mark).token = true :=
  rfl

theorem admitted_variable {target : Variable} (whole : IsWhole target) :
    Admitted prologue (variablePieces target) := by
  have tokens := tokens_variable whole
  intro piece member
  have inside : piece.token ∈ (variablePieces target).map Piece.token := List.mem_map_of_mem member
  rw [tokens, List.mem_singleton] at inside
  rw [inside]
  rfl

theorem admitted_literal (noBase : prologue.base = none) {literal : Literal}
    (quotable : Quotable literal) : Admitted prologue (literalPieces literal) := by
  unfold literalPieces
  refine admitted_cons.mpr ⟨rfl, ?_⟩
  split
  · exact .nil
  · next language kind => exact absurd kind (quotable.untagged language)
  · next datatype _ =>
    exact admitted_cons.mpr ⟨rfl, admitted_cons.mpr ⟨Prologue.admits_iri noBase datatype, .nil⟩⟩

namespace Expression

mutual

theorem admitted (noBase : prologue.base = none) : (expression : Expression) → expression.Sound →
    expression.Legible → Admitted prologue expression.pieces
  | .var _, _, whole => admitted_variable whole
  | .iri value, _, _ => admitted_cons.mpr ⟨Prologue.admits_iri noBase value, .nil⟩
  | .literal _, quotable, _ => admitted_literal noBase quotable
  | .member value list, ⟨sound, listSound⟩, ⟨_, legible, listLegible⟩ => by
      simp only [pieces, admitted_append, admitted_cons, admitted_word, admitted_mark, Admitted.nil,
        admitted noBase value sound legible, list_admitted noBase list listSound listLegible,
          and_self]
  | .conjunction left right, ⟨soundLeft, soundRight⟩, ⟨legibleLeft, legibleRight⟩ => by
      simp only [pieces, admitted_append, admitted_cons, admitted_mark, Admitted.nil,
        admitted noBase left soundLeft legibleLeft, admitted noBase right soundRight legibleRight,
        and_self]
  | .atLeast left right, ⟨soundLeft, soundRight⟩, ⟨legibleLeft, legibleRight⟩ => by
      simp only [pieces, admitted_append, admitted_cons, admitted_mark, Admitted.nil,
        admitted noBase left soundLeft legibleLeft.2,
        admitted noBase right soundRight legibleRight.2, and_self]
  | .atMost left right, ⟨soundLeft, soundRight⟩, ⟨legibleLeft, legibleRight⟩ => by
      simp only [pieces, admitted_append, admitted_cons, admitted_mark, Admitted.nil,
        admitted noBase left soundLeft legibleLeft.2,
        admitted noBase right soundRight legibleRight.2, and_self]
  | .bound target, _, whole => by
      simp only [pieces, admitted_append, admitted_cons, admitted_word, admitted_mark, Admitted.nil,
        admitted_variable (show IsWhole target from whole), and_self]
  | .call _ arguments, sound, ⟨_, legible⟩ => by
      simp only [pieces, admitted_append, admitted_cons, admitted_word, admitted_mark, Admitted.nil,
        list_admitted noBase arguments sound legible, and_self]
  | .cast datatype value, sound, legible => by
      simp only [pieces, admitted_append, admitted_cons, admitted_mark, Admitted.nil,
        admitted noBase value sound legible, and_self, and_true]
      exact Prologue.admits_iri noBase datatype

theorem list_admitted (noBase : prologue.base = none) : (list : List Expression) →
    ListSound list → ListLegible list → Admitted prologue (listPieces list)
  | [], _, _ => .nil
  | [expression], sound, legible => by
      simpa [listPieces] using admitted noBase expression sound.1 legible.1
  | expression :: next :: rest, sound, legible => by
      simp only [listPieces, admitted_append, admitted_cons, admitted_mark,
        admitted noBase expression sound.1 legible.1,
        list_admitted noBase (next :: rest) sound.2 legible.2, and_self]

end

end Expression

namespace Pattern

mutual

/-- The tokens of every path mean something. -/
def PathsAdmitted (prologue : Prologue) : Pattern → Prop
  | .triple _ path _ => ∀ token ∈ path.tokens, prologue.admits token = true
  | .values _ _ => True
  | .optional elements => ListPathsAdmitted prologue elements
  | .filter _ => True

def ListPathsAdmitted (prologue : Prologue) : List Pattern → Prop
  | [] => True
  | element :: rest => element.PathsAdmitted prologue ∧ ListPathsAdmitted prologue rest

end

variable {edit : List Char → List Char}

mutual

theorem admitted (noBase : prologue.base = none) : (pattern : Pattern) → pattern.Sound edit →
    pattern.Legible → pattern.PathsAdmitted prologue → Admitted prologue pattern.pieces
  | .triple (.var subject) path (.var object), _, ⟨whole, _, wholeObject⟩, paths => by
      have admittedPath : Admitted prologue path.pieces := by
        have tokens : ∀ token ∈ path.tokens, prologue.admits token = true := paths
        simpa [Admitted, PropertyPath.pieces, Piece.token] using tokens
      simp only [pieces, Node.pieces, admitted_append, admitted_cons, admitted_mark, Admitted.nil,
        admitted_variable whole, admitted_variable wholeObject, admittedPath, and_self]
  | .values target items, _, whole, _ => by
      have admittedItems : Admitted prologue (items.map fun item => .iri item.text) := by
        intro piece member
        obtain ⟨item, -, rfl⟩ := List.mem_map.mp member
        exact Prologue.admits_iri noBase item
      simp only [pieces, admitted_append, admitted_cons, admitted_word, admitted_mark, Admitted.nil,
        admitted_variable (show IsWhole target from whole), admittedItems, and_self]
  | .optional elements, sound, legible, paths => by
      simp only [pieces, admitted_append, admitted_cons, admitted_word, admitted_mark, Admitted.nil,
        list_admitted noBase elements sound legible paths, and_self]
  | .filter condition, sound, legible, _ => by
      simp only [pieces, admitted_append, admitted_cons, admitted_word, admitted_mark, Admitted.nil,
        condition.admitted noBase sound legible, and_self]

theorem list_admitted (noBase : prologue.base = none) : (elements : List Pattern) →
    ListSound edit elements → ListLegible elements → ListPathsAdmitted prologue elements →
    Admitted prologue (listPieces elements)
  | [], _, _, _ => .nil
  | element :: rest, sound, legible, paths => by
      simp only [listPieces, admitted_append, admitted noBase element sound.1 legible.1 paths.1,
        list_admitted noBase rest sound.2 legible.2 paths.2, and_self]

end

end Pattern

end

end FacetedQuery.Clause
