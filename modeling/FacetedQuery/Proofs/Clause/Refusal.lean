import FacetedQuery.Proofs.Clause.Halting
import FacetedQuery.Proofs.Clause.Wording

/-!
# Memberships that are read apart

A membership prints no parentheses of its own, so where it is compared or is the member of another
list the grammar ends an operand in front of its list.  Then what it is part of cannot be read.
-/

namespace FacetedQuery.Clause

open Rdf (Iri)
open Sparql (Mark Token)
open Sparql.Grammar
open Sparql.Reader hiding Agree

namespace Expression

mutual

/-- No membership is compared or the member of a list. -/
def Grouped : Expression → Prop
  | .var _ => True
  | .iri _ => True
  | .literal _ => True
  | .member value list => (value.IsOperand ∧ value.Grouped) ∧ ListGrouped list
  | .conjunction left right => left.Grouped ∧ right.Grouped
  | .atLeast left right => (left.IsOperand ∧ left.Grouped) ∧ right.IsOperand ∧ right.Grouped
  | .atMost left right => (left.IsOperand ∧ left.Grouped) ∧ right.IsOperand ∧ right.Grouped
  | .bound _ => True
  | .call _ arguments => ListGrouped arguments
  | .cast _ value => value.Grouped

def ListGrouped : List Expression → Prop
  | [] => True
  | expression :: rest => expression.Grouped ∧ ListGrouped rest

end

mutual

theorem legible_of_grouped : (expression : Expression) → expression.Fitting → expression.Grouped →
    expression.Legible
  | .var _, whole, _ => whole
  | .iri _, _, _ => trivial
  | .literal _, _, _ => trivial
  | .member value list, ⟨fitting, listFitting⟩, ⟨⟨operand, grouped⟩, listGrouped⟩ =>
      ⟨operand, legible_of_grouped value fitting grouped,
        list_legible_of_grouped list listFitting listGrouped⟩
  | .conjunction left right, ⟨fitting, fittingRight⟩, ⟨grouped, groupedRight⟩ =>
      ⟨legible_of_grouped left fitting grouped, legible_of_grouped right fittingRight groupedRight⟩
  | .atLeast left right, ⟨fitting, fittingRight⟩,
    ⟨⟨operand, grouped⟩, operandRight, groupedRight⟩ =>
      ⟨⟨operand, legible_of_grouped left fitting grouped⟩, operandRight,
        legible_of_grouped right fittingRight groupedRight⟩
  | .atMost left right, ⟨fitting, fittingRight⟩, ⟨⟨operand, grouped⟩, operandRight, groupedRight⟩ =>
      ⟨⟨operand, legible_of_grouped left fitting grouped⟩, operandRight,
        legible_of_grouped right fittingRight groupedRight⟩
  | .bound _, whole, _ => whole
  | .call _ list, ⟨takes, fitting⟩, grouped => ⟨takes, list_legible_of_grouped list fitting grouped⟩
  | .cast _ value, fitting, grouped => legible_of_grouped value fitting grouped

theorem list_legible_of_grouped : (list : List Expression) → ListFitting list → ListGrouped list →
    ListLegible list
  | [], _, _ => trivial
  | expression :: rest, ⟨fitting, listFitting⟩, ⟨grouped, listGrouped⟩ =>
      ⟨legible_of_grouped expression fitting grouped,
        list_legible_of_grouped rest listFitting listGrouped⟩

end

end Expression

open Expression

namespace Expression

/-- An expression starts with neither the keyword of a choice nor a closing parenthesis. -/
theorem starts : (expression : Expression) → expression.Fitting → ∀ rest,
    word "DISTINCT" (expression.tokens ++ rest) = none ∧
      mark .closeParen (expression.tokens ++ rest) = none
  | .var target, whole => fun _ => by
      rw [tokens_var whole]
      exact ⟨rfl, rfl⟩
  | .member value list, fitting => fun rest => by
      rw [tokens_member, List.append_assoc]
      exact starts value fitting.1 _
  | .call function _, _ => fun _ => by cases function <;> exact ⟨rfl, rfl⟩
  | .iri _, _ | .literal _, _ | .conjunction _ _, _ | .atLeast _ _, _ | .atMost _ _, _
  | .bound _, _ | .cast _ _, _ => fun _ => ⟨rfl, rfl⟩

end Expression

theorem relation_of_membership {expression : Expression} (legible : expression.Legible)
    (membership : ¬ expression.IsOperand) {depth : Nat} (deep : expression.tokens.length ≤ depth)
    (rest : List Token) : relation (readersWithin depth) (expression.tokens ++ rest) =
      some (expression.tree, rest) := by
  cases expression with
  | member value list =>
      obtain ⟨operand, legible, listLegible⟩ := legible
      exact relation_member operand (readBack value legible)
        (list_readBack list listLegible) deep rest
  | _ => exact absurd trivial membership

/-- Where reading an expression stops if it is not grouped, or if it is a membership that is
compared. -/
structure Stops (expression : Expression) : Prop where
  operand : expression.IsOperand → ¬ expression.Grouped → ∀ {depth : Nat},
    expression.tokens.length ≤ depth → ∀ rest,
      Halts opened (sum (readersWithin depth) (expression.tokens ++ rest))
  membership : ¬ expression.IsOperand → ∀ {depth : Nat}, expression.tokens.length ≤ depth → ∀ rest,
    Halts parted (sum (readersWithin depth) (expression.tokens ++ rest))
  relation : ¬ expression.Grouped → ∀ {depth : Nat}, expression.tokens.length ≤ depth → ∀ rest,
    Halts severed (relation (readersWithin depth) (expression.tokens ++ rest))

namespace Stops

variable {expression : Expression} {depth : Nat}

theorem ofPrimary (isOperand : expression.IsOperand)
    (unsigned : ∀ rest, unaryOperator (expression.tokens ++ rest) = none)
    (halts : ¬ expression.Grouped → ∀ {depth : Nat}, expression.tokens.length ≤ depth → ∀ rest,
      Halts opened (primary (readersWithin depth) (expression.tokens ++ rest))) :
    Stops expression where
  operand _ apart _ deep rest := sum_of_halts (unsigned rest) (halts apart deep rest)
  membership other := absurd isOperand other
  relation apart _ deep rest :=
    (relation_of_halts (sum_of_halts (unsigned rest) (halts apart deep rest))).mono
      (List.Subset.trans opened_subset parted_subset)

theorem ofGrouped (isOperand : expression.IsOperand) (grouped : expression.Grouped) :
    Stops expression where
  operand _ apart := absurd grouped apart
  membership other := absurd isOperand other
  relation apart := absurd grouped apart

theorem ofParenthesised (isOperand : expression.IsOperand) {inner : List Token}
    (tokens : expression.tokens = .mark .openParen :: (inner ++ [.mark .closeParen]))
    (halts : ¬ expression.Grouped → ∀ {depth : Nat}, inner.length + 1 ≤ depth → ∀ rest,
      Halts broken (expressionWith (readersWithin depth) (inner ++ rest))) :
    Stops expression := by
  refine .ofPrimary isOperand (fun _ => by rw [tokens]; rfl) fun apart {depth} deep rest => ?_
  rw [tokens] at deep ⊢
  simp only [List.length_cons, List.length_append, List.length_nil] at deep
  obtain ⟨depth, rfl⟩ : ∃ smaller, depth = smaller + 1 := ⟨depth - 1, by omega⟩
  have inside : Halts broken ((readersWithin (depth + 1)).expression
      (inner ++ [.mark .closeParen] ++ rest)) := by
    rw [List.append_assoc]
    exact halts apart (by omega) _
  rw [List.cons_append, primary_of_halts inside]
  exact .none

theorem sum (stops : Stops expression) (split : ¬ (expression.IsOperand ∧ expression.Grouped))
    (deep : expression.tokens.length ≤ depth) (rest : List Token) :
    Halts parted (Sparql.Grammar.sum (readersWithin depth) (expression.tokens ++ rest)) := by
  by_cases operand : expression.IsOperand
  · exact (stops.operand operand (fun grouped => split ⟨operand, grouped⟩) deep rest).mono
      opened_subset
  · exact stops.membership operand deep rest

/-- A comparison cannot start with anything but a grouped operand. -/
theorem relation_before (stops : Stops expression) (fitting : expression.Fitting)
    (split : ¬ (expression.IsOperand ∧ expression.Grouped)) {next : Token} (inside : next ∈ severed)
    (deep : expression.tokens.length ≤ depth) (rest : List Token) :
    Halts severed (Sparql.Grammar.relation (readersWithin depth)
      (expression.tokens ++ next :: rest)) := by
  by_cases grouped : expression.Grouped
  · have membership : ¬ expression.IsOperand := fun operand => split ⟨operand, grouped⟩
    rw [relation_of_membership (legible_of_grouped expression fitting grouped) membership deep]
    exact .at inside _ rest
  · exact stops.relation grouped deep _

theorem within (stops : Stops expression) (apart : ¬ expression.Grouped)
    (deep : expression.tokens.length < depth) (rest : List Token) :
    Halts broken ((readersWithin depth).expression (expression.tokens ++ rest)) := by
  obtain ⟨depth, rfl⟩ : ∃ smaller, depth = smaller + 1 := ⟨depth - 1, by omega⟩
  exact expression_of_halts (stops.relation apart (by omega) rest)

end Stops

section

variable {list : List Expression} {depth : Nat}

theorem listTokens_cons (expression next : Expression) (list : List Expression) :
    listTokens (expression :: next :: list) =
      expression.tokens ++ .mark .comma :: listTokens (next :: list) := by
  simp [listTokens, listPieces, Expression.tokens, Piece.token, Piece.mark]

theorem listTokens_append_cons (expression : Expression) (list : List Expression)
    (rest : List Token) :
    ∃ further, listTokens (expression :: list) ++ rest = expression.tokens ++ further := by
  cases list with
  | nil => exact ⟨rest, rfl⟩
  | cons next list => exact ⟨.mark .comma :: (listTokens (next :: list) ++ rest), by
      rw [listTokens_cons, List.append_assoc]
      rfl⟩

theorem separated_stops (fitting : ListFitting list) (apart : ¬ ListGrouped list)
    (stops : ∀ expression ∈ list, Stops expression) (deep : (listTokens list).length < depth)
    (rest : List Token) :
    Halts (.mark .comma :: broken) (separated (mark .comma) (readersWithin depth).expression
      (listTokens list ++ rest)) := by
  induction list with
  | nil => exact absurd trivial apart
  | cons expression list induction =>
      have first := stops expression (by simp)
      have refused (bad : ¬ expression.Grouped) (small : expression.tokens.length < depth)
          (rest : List Token) : Halts (.mark .comma :: broken) (separated (mark .comma)
            (readersWithin depth).expression (expression.tokens ++ rest)) :=
        (separated_of_halts (first.within bad small rest) (by decide)).mono
          (List.subset_cons_self _ _)
      cases list with
      | nil => exact refused (fun grouped => apart ⟨grouped, trivial⟩) deep rest
      | cons next list =>
          rw [listTokens_cons, List.length_append, List.length_cons] at deep
          rw [listTokens_cons, List.append_assoc]
          by_cases grouped : expression.Grouped
          · have small : expression.tokens.length < depth := by omega
            have closes : Before closers (.mark .comma :: (listTokens (next :: list) ++ rest)) :=
              .cons (by simp [closers]) _
            have read := (readBack expression
              (legible_of_grouped expression fitting.1 grouped)).expression small closes
            have further := induction fitting.2 (fun others => apart ⟨grouped, others⟩)
              (fun other inside => stops other (by simp [inside])) (by omega)
            exact separated_of_halts_further
              (fun _ => (readersWithin_self depth).expression) read further (by simp)
          · exact refused grouped (by omega) _

/-- A list is not read if one of its items is not. -/
theorem listed_refused (fitting : ListFitting list) (apart : ¬ ListGrouped list)
    (stops : ∀ expression ∈ list, Stops expression) (deep : (listTokens list).length < depth)
    (rest : List Token) :
    listed (readersWithin depth).expression (.mark .openParen :: (listTokens list ++ rest)) =
      none := by
  refine listed_of_halts (separated_stops fitting apart stops deep rest) (by decide) ?_
  cases list with
  | nil => exact absurd trivial apart
  | cons expression list =>
      obtain ⟨further, split⟩ := listTokens_append_cons expression list rest
      rw [split]
      exact (starts expression fitting.1 further).2

end

section

variable {left right value : Expression} {list : List Expression}

theorem stops_member (fitting : (Expression.member value list).Fitting) (stopsValue : Stops value)
    (stops : ∀ expression ∈ list, Stops expression) : Stops (.member value list) where
  operand isOperand := absurd isOperand id
  membership _ {depth} deep rest := by
    rw [tokens_member] at deep ⊢
    simp only [List.length_append, List.length_cons] at deep
    rw [List.append_assoc]
    by_cases whole : value.IsOperand ∧ value.Grouped
    · rw [List.cons_append, (readBack value (legible_of_grouped value fitting.1 whole.2)).operand
        whole.1 (by omega) _ (.cons (by simp [comparers]) _)]
      exact .at (by simp [parted]) _ _
    · exact stopsValue.sum whole (by omega) _
  relation apart {depth} deep rest := by
    rw [tokens_member] at deep ⊢
    simp only [List.length_append, List.length_cons] at deep
    rw [List.append_assoc, List.cons_append]
    by_cases whole : value.IsOperand ∧ value.Grouped
    · refine relation_of_refused_list
        ((readBack value (legible_of_grouped value fitting.1 whole.2)).operand
          whole.1 (by omega) _ (.cons (by simp [comparers]) _)) ?_
      rw [List.cons_append, List.append_assoc]
      exact listed_refused fitting.2 (fun others => apart ⟨whole, others⟩) stops (by omega) _
    · exact stopsValue.relation_before fitting.1 whole (by simp [severed, parted]) (by omega) _

theorem stops_conjunction (fitting : (Expression.conjunction left right).Fitting)
    (stopsLeft : Stops left) (stopsRight : Stops right) : Stops (.conjunction left right) := by
  refine .ofParenthesised trivial (Joins.conjunction.tokens left right)
    fun apart {depth} deep rest => ?_
  rw [List.length_append, List.length_cons] at deep
  rw [List.append_assoc]
  by_cases grouped : left.Grouped
  · exact expression_of_halts_right
      ((readBack left (legible_of_grouped left fitting.1 grouped)).relation (by omega) _
        (.cons (by simp [conjoiners]) _))
      (stopsRight.relation (fun others => apart ⟨grouped, others⟩) (by omega) rest)
  · exact expression_of_halts (stopsLeft.relation grouped (by omega) _)

theorem stops_comparison {expression : Expression} {sign : Mark} {operator : Sparql.BinaryOperator}
    (compares : Compares sign operator) (isOperand : expression.IsOperand)
    (tokens : expression.tokens =
      .mark .openParen :: ((left.tokens ++ .mark sign :: right.tokens) ++ [.mark .closeParen]))
    (compared : (left.IsOperand ∧ left.Grouped) ∧ right.IsOperand ∧ right.Grouped →
      expression.Grouped)
    (fitting : left.Fitting) (stopsLeft : Stops left) (stopsRight : Stops right) :
    Stops expression := by
  refine .ofParenthesised isOperand tokens fun apart {depth} deep rest => ?_
  rw [List.length_append, List.length_cons] at deep
  rw [List.append_assoc]
  refine expression_of_halts ?_
  by_cases whole : left.IsOperand ∧ left.Grouped
  · exact relation_of_halts_right compares
      ((readBack left (legible_of_grouped left fitting whole.2)).operand whole.1 (by omega) _
        (.cons (by cases compares <;> simp [comparers]) _))
      (stopsRight.sum (fun others => apart (compared ⟨whole, others⟩)) (by omega) rest)
  · exact stopsLeft.relation_before fitting whole (by cases compares <;> simp [severed])
      (by omega) _

theorem stops_call {function : Builtin} (fitting : (Expression.call function list).Fitting)
    (stops : ∀ expression ∈ list, Stops expression) : Stops (.call function list) := by
  refine .ofPrimary trivial (fun _ => by rw [tokens_call]; rfl) fun apart {depth} deep rest => ?_
  rw [tokens_call] at deep ⊢
  simp only [List.length_append, List.length_cons] at deep
  obtain ⟨takes, listFitting⟩ := fitting
  obtain ⟨arity, known, -⟩ := takes.arity
  rw [List.cons_append, List.cons_append, List.append_assoc, primary_of_refused_call function known
    (listed_refused listFitting apart stops (by omega) _)]
  exact .none

theorem stops_cast (datatype : Iri) (fitting : value.Fitting) (stops : Stops value) :
    Stops (.cast datatype value) := by
  refine .ofPrimary trivial (fun _ => by rw [tokens_cast]; rfl) fun apart {depth} deep rest => ?_
  have alone : value.tokens = listTokens [value] := rfl
  rw [tokens_cast, alone] at deep ⊢
  simp only [List.length_append, List.length_cons] at deep
  rw [List.cons_append, List.cons_append, List.append_assoc]
  have single : ListFitting [value] := ⟨fitting, trivial⟩
  have apartList : ¬ ListGrouped [value] := fun grouped => apart grouped.1
  exact primary_of_refused_cast _ (starts value fitting _).1
    (listed_refused single apartList (by simpa using stops) (by omega) _)

end

mutual

/-- Reading stops at every membership that is compared or the member of a list. -/
theorem stops : (expression : Expression) → expression.Fitting → Stops expression
  | .var _, _ | .iri _, _ | .literal _, _ | .bound _, _ => .ofGrouped trivial trivial
  | .member value list, fitting =>
      stops_member fitting (stops value fitting.1) (list_stops list fitting.2)
  | .conjunction left right, fitting =>
      stops_conjunction fitting (stops left fitting.1) (stops right fitting.2)
  | .atLeast left right, fitting =>
      stops_comparison .atLeast trivial (Joins.atLeast.tokens left right) id fitting.1
        (stops left fitting.1) (stops right fitting.2)
  | .atMost left right, fitting =>
      stops_comparison .atMost trivial (Joins.atMost.tokens left right) id fitting.1
        (stops left fitting.1) (stops right fitting.2)
  | .call _ list, fitting => stops_call fitting (list_stops list fitting.2)
  | .cast datatype value, fitting => stops_cast datatype fitting (stops value fitting)

theorem list_stops : (list : List Expression) → ListFitting list →
    ∀ expression ∈ list, Stops expression
  | [], _ => by simp
  | expression :: rest, fitting => by
      have first := stops expression fitting.1
      have others := list_stops rest fitting.2
      intro other inside
      rcases List.mem_cons.mp inside with rfl | inside
      · exact first
      · exact others other inside

end

end FacetedQuery.Clause
