import FacetedQuery.Proofs.Clause.Decoding
import FacetedQuery.Proofs.Clause.Elements

/-!
# The texts of expressions

What the text of an expression is read as, by itself and as the condition of a filter.  It is read
as the expression itself if no membership is compared or sought in a list, and not at all otherwise.
-/

namespace FacetedQuery

namespace Clause

open Sparql (Token)
open Sparql.Grammar
open Expression

/-- The expression that a text is read as. -/
def expression? (text : String) : Option Sparql.Expression :=
  whole? .empty Readers.expression text

/-- The element of a group that a text is read as, if it is no triple. -/
def element? (text : String) : Option Sparql.Element :=
  whole? .empty patternElement text

theorem literalForm_injective : Function.Injective literalForm := by
  rintro ⟨value, kind⟩ ⟨valueOther, kindOther⟩ same
  cases kind <;> cases kindOther <;> simp [literalForm] at same
  · rw [same]
  · rw [same.1, same.2]
  · rw [same.1, Rdf.Iri.text_injective same.2]

namespace Expression

mutual

theorem eq_of_tree : (expression other : Expression) → expression.tree = other.tree →
    expression = other
  | .var target, other, same => by
      cases other <;> simp [tree] at same
      rw [Rdf.Variable.ext_name same]
  | .iri value, other, same => by
      cases other <;> simp [tree] at same
      rw [Rdf.Iri.text_injective same]
  | .literal value, other, same => by
      cases other <;> simp [tree] at same
      rw [literalForm_injective same]
  | .member value list, other, same => by
      cases other <;> simp [tree] at same
      rw [eq_of_tree value _ same.1, eq_of_listTree list _ same.2]
  | .conjunction left right, other, same => by
      cases other <;> simp [tree] at same
      rw [eq_of_tree left _ same.1, eq_of_tree right _ same.2]
  | .atLeast left right, other, same => by
      cases other <;> simp [tree] at same
      rw [eq_of_tree left _ same.1, eq_of_tree right _ same.2]
  | .atMost left right, other, same => by
      cases other <;> simp [tree] at same
      rw [eq_of_tree left _ same.1, eq_of_tree right _ same.2]
  | .bound target, other, same => by
      cases other <;> simp [tree] at same
      rw [Rdf.Variable.ext_name same]
  | .call function list, other, same => by
      cases other with
      | call functionOther listOther =>
          simp only [tree_call, Sparql.Expression.call.injEq, Sparql.Callee.builtin.injEq] at same
          have sameName : function = functionOther := by
            cases function <;> cases functionOther <;> first | rfl | exact absurd same.1 (by decide)
          rw [sameName, eq_of_listTree list _ same.2]
      | _ => simp [tree] at same
  | .cast datatype value, other, same => by
      cases other <;> simp [tree] at same
      rw [Rdf.Iri.text_injective same.1, eq_of_tree value _ same.2]

theorem eq_of_listTree : (list other : List Expression) → listTree list = listTree other →
    list = other
  | [], [], _ => rfl
  | [], _ :: _, same => by simp [listTree] at same
  | _ :: _, [], same => by simp [listTree] at same
  | expression :: list, next :: other, same => by
      simp only [listTree, List.cons.injEq] at same
      rw [eq_of_tree expression next same.1, eq_of_listTree list other same.2]

end

theorem tree_injective : Function.Injective tree :=
  fun expression other => eq_of_tree expression other

end Expression

section

variable {condition : Expression}

/-- The tokens of a filter. -/
def filterTokens (condition : Expression) : List Token :=
  .word "FILTER" :: .mark .openParen :: (condition.tokens ++ [.mark .closeParen])

theorem tokens?_render_filter (fitting : condition.Fitting) :
    Token.tokens? (Pattern.filter condition).render.toList = some (filterTokens condition) := by
  have spells := spells_call ['F', 'I', 'L', 'T', 'E', 'R'] (fun _ => rfl) (by simp)
    (condition.spells fitting)
  rw [Token.tokens?_eq_lex]
  simpa [Pattern.render, filterTokens] using spells.lex

theorem all_acceptsToken_filter (fitting : condition.Fitting) :
    (filterTokens condition).all Sparql.Prologue.empty.acceptsToken = true := by
  simp only [filterTokens, List.all_cons, List.all_append, List.all_nil, Bool.and_eq_true,
    all_acceptsToken fitting]
  exact ⟨accepted_word "FILTER", accepted_mark _, trivial, accepted_mark _, trivial⟩

theorem finds_expression (fitting : condition.Fitting) (grouped : condition.Grouped)
    {rest : List Token} (follows : Before closers rest) :
    Finds Readers.expression (condition.tokens ++ rest) condition.tree rest :=
  (readBack condition (legible_of_grouped condition fitting grouped)).expression
    (by rw [List.length_append]; omega) follows

theorem not_finds_expression (fitting : condition.Fitting) (apart : ¬ condition.Grouped)
    (value : Sparql.Expression) : ¬ Finds Readers.expression condition.tokens value [] := by
  intro finds
  have halts := (stops condition fitting).within apart (Nat.lt_succ_self _) []
  rw [List.append_nil] at halts
  obtain ⟨next, -, head⟩ := halts value [] finds
  cases head

theorem finds_filter (fitting : condition.Fitting) (grouped : condition.Grouped) :
    Finds patternElement (filterTokens condition) (.filter condition.tree) [] :=
  (finds_expression fitting grouped (.cons (by simp [closers]) [])).condition.filter

theorem not_finds_filter (fitting : condition.Fitting) (apart : ¬ condition.Grouped)
    (value : Sparql.Element) : ¬ Finds patternElement (filterTokens condition) value [] := by
  intro finds
  have deep : condition.tokens.length < (filterTokens condition).length + 1 := by
    simp [filterTokens]
    omega
  have halts := (stops condition fitting).within apart deep [.mark .closeParen]
  unfold Sparql.Grammar.Finds filterTokens at finds
  rw [patternElement_filter] at finds
  rw [filterTokens] at halts
  rw [constraint_of_halts halts] at finds
  cases finds

theorem read_of_grouped (fitting : condition.Fitting) (grouped : condition.Grouped) :
    expression? condition.render = some condition.tree ∧
      element? (Pattern.filter condition).render = some (.filter condition.tree) := by
  have finds := finds_expression fitting grouped .nil
  rw [List.append_nil] at finds
  exact ⟨whole?_eq_some (tokens?_render fitting) (all_acceptsToken fitting) finds,
    whole?_eq_some (tokens?_render_filter fitting) (all_acceptsToken_filter fitting)
      (finds_filter fitting grouped)⟩

theorem unread_of_not_grouped (fitting : condition.Fitting) (apart : ¬ condition.Grouped) :
    expression? condition.render = none ∧ element? (Pattern.filter condition).render = none :=
  ⟨whole?_eq_none (tokens?_render fitting) (not_finds_expression fitting apart),
    whole?_eq_none (tokens?_render_filter fitting) (not_finds_filter fitting apart)⟩

end

/-- The text of an expression is read as the expression, and that of a filter as a filter with it,
if the expression is grouped, and neither is read otherwise; different expressions have different
texts and stand for different trees. -/
theorem render_reads {expression : Expression} (fitting : expression.Fitting) :
    (expression.Grouped →
      expression? expression.render = some expression.tree ∧
        element? (Pattern.filter expression).render = some (.filter expression.tree)) ∧
    (¬ expression.Grouped →
      expression? expression.render = none ∧ element? (Pattern.filter expression).render = none) ∧
    ∀ other : Expression, other.Fitting →
      expression.render = other.render ∨ expression.tree = other.tree → expression = other := by
  refine ⟨read_of_grouped fitting, unread_of_not_grouped fitting, fun other fittingOther => ?_⟩
  rintro (sameText | sameTree)
  · exact render_injective fitting fittingOther sameText
  · exact tree_injective sameTree

/-- Whether `?a` is `?b`. -/
def membership : Expression :=
  .member (.var ⟨"a", by decide⟩) [.var ⟨"b", by decide⟩]

theorem render_reads_joined :
    (Expression.conjunction membership (.bound ⟨"c", by decide⟩)).Fitting ∧
      expression? "(?a IN (?b) && BOUND(?c))" =
        some (.binary .and (.member false (.var "a") [.var "b"]) (.bound "c")) := by
  have fitting : (Expression.conjunction membership (.bound ⟨"c", by decide⟩)).Fitting := by
    simp [membership, Fitting, ListFitting, IsWhole]
  have grouped : (Expression.conjunction membership (.bound ⟨"c", by decide⟩)).Grouped := by
    simp [membership, Grouped, ListGrouped, IsOperand]
  exact ⟨fitting, ((render_reads fitting).1 grouped).1⟩

/-- The text in which a membership is compared is no expression. -/
theorem exists_unread_comparison : ∃ expression : Expression, expression.Fitting ∧
    expression.render = "(?a IN (?b) >= ?c)" ∧ expression? expression.render = none ∧
      element? (Pattern.filter expression).render = none := by
  have fitting : (Expression.atLeast membership (.var ⟨"c", by decide⟩)).Fitting := by
    simp [membership, Fitting, ListFitting, IsWhole]
  have apart : ¬ (Expression.atLeast membership (.var ⟨"c", by decide⟩)).Grouped := by
    simp [membership, Grouped, IsOperand]
  exact ⟨_, fitting, rfl, unread_of_not_grouped fitting apart⟩

end Clause

end FacetedQuery
