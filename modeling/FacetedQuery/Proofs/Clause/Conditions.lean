import FacetedQuery.Proofs.Clause.Semantics

/-!
# The conditions of filters

When the conditions hold that filters are made of: comparisons, memberships, conjunctions and
searches for a part of a label.
-/

namespace FacetedQuery.Clause.Expression

open Rdf (Iri Literal Term Variable)

variable {operators : Operators} {solution : Binding} {left right : Expression}

theorem both_eq_true {first second : Option Bool} :
    both first second = some true ↔ first = some true ∧ second = some true := by
  rcases first with _ | _ | _ <;> rcases second with _ | _ | _ <;> simp [both]

theorem either_some {first second : Bool} :
    either (some first) (some second) = some (first || second) := by
  cases first <;> cases second <;> rfl

theorem bind_isTrue_map_truth {truth : Option Bool} :
    (truth.map Value.truth).bind operators.isTrue = truth := by
  cases truth <;> rfl

theorem holds_conjunction :
    (conjunction left right).Holds operators solution ↔
      left.Holds operators solution ∧ right.Holds operators solution := by
  rw [Holds, value?, bind_isTrue_map_truth, both_eq_true]
  rfl

/-- The comparisons of expressions, and how they compare values. -/
inductive Orders (operators : Operators) :
    (Expression → Expression → Expression) → (Value → Value → Option Bool) → Prop where
  | atLeast : Orders operators atLeast operators.atLeast
  | atMost : Orders operators atMost operators.atMost

/-- A comparison with a known value holds if there is a value that compares so. -/
theorem Orders.holds_iff {combine : Expression → Expression → Expression}
    {compare : Value → Value → Option Bool} (orders : Orders operators combine compare)
    {first? : Option Value} {second : Value} (atLeft : left.value? operators solution = first?)
    (atRight : right.value? operators solution = some second) :
    (combine left right).Holds operators solution ↔
      ∃ first ∈ first?, compare first second = some true := by
  cases orders <;>
    · rw [Holds, value?, atLeft, atRight]
      cases first? with
      | none => simp
      | some first => simp [bind_isTrue_map_truth]

theorem isMember_iris {value : Value} (items : List Iri) :
    operators.isMember value (listValues operators solution (items.map .iri)) =
      some (items.any fun item => value = .term (.iri item)) := by
  induction items with
  | nil => rfl
  | cons item items induction =>
      have equal : operators.isEqual value (.term (.iri item)) =
          some (decide (value = .term (.iri item))) := by
        simp [Operators.isEqual, Value.isResource]
      rw [List.map_cons, listValues, value?, Operators.isMember, List.foldr_cons,
        ← Operators.isMember, induction, Option.bind_some, equal, either_some, List.any_cons]

theorem holds_member {target : Variable} {term : Term} (bound : solution target = some term)
    (items : List Iri) :
    (member (.var target) (items.map .iri)).Holds operators solution ↔
      ∃ item ∈ items, term = .iri item := by
  rw [Holds, value?, value?, bound]
  simp only [Option.map_some, Option.bind_some, isMember_iris, Operators.isTrue]
  simp

theorem holds_contains {target : Variable} {term : Term} (bound : solution target = some term)
    (content : String) :
    (call .contains [.call .lcase [.call .str [.var target]], .literal (.plain content)]).Holds
        operators solution ↔
      ∃ lexical, lexical? term = some lexical ∧
        content.toList <:+: (operators.lowercase lexical).toList := by
  cases found : lexical? term with
  | none => simp [Holds, value?, listValues, Operators.call, bound, Value.str?, found]
  | some lexical =>
      simp [Holds, value?, listValues, Operators.call, bound, Value.str?, found,
        Operators.lowercase?, Value.string?, Literal.plain, Value.contains?, Operators.isTrue]

theorem listMentioned_iris (items : List Iri) : listMentioned (items.map .iri) = [] := by
  induction items with
  | nil => rfl
  | cons item items induction => simpa [listMentioned, mentioned] using induction

theorem value?_coalesce (first second : Variable) :
    (call .coalesce [.var first, .var second]).value? operators solution =
      ((solution first).or (solution second)).map .term := by
  simp only [value?, listValues, Operators.call]
  cases solution first <;> cases solution second <;> rfl

theorem holds_foldl (first : Expression) (rest : List Expression) :
    (rest.foldl conjunction first).Holds operators solution ↔
      first.Holds operators solution ∧ ∀ other ∈ rest, other.Holds operators solution := by
  induction rest generalizing first with
  | nil => simp
  | cons next rest induction =>
      rw [List.foldl_cons, induction, holds_conjunction]
      simp [and_assoc]

theorem holds_all? {list : List Expression} :
    (∀ condition ∈ (all? list).toList, condition.Holds operators solution) ↔
      ∀ condition ∈ list, condition.Holds operators solution := by
  cases list with
  | nil => simp [all?]
  | cons first rest => simp [all?, holds_foldl]

theorem mentioned_foldl {read : Variable} {first : Expression} {rest : List Expression}
    (mentioned : read ∈ (rest.foldl conjunction first).mentioned) :
    ∃ other ∈ first :: rest, read ∈ other.mentioned := by
  induction rest generalizing first with
  | nil => exact ⟨first, by simp, mentioned⟩
  | cons next rest induction =>
      obtain ⟨other, member, inside⟩ := induction mentioned
      rcases List.mem_cons.mp member with rfl | member
      · rw [Expression.mentioned, List.mem_append] at inside
        exact inside.elim (fun inside => ⟨first, by simp, inside⟩)
          fun inside => ⟨next, by simp, inside⟩
      · exact ⟨other, by simp [member], inside⟩

theorem mentioned_all? {read : Variable} {condition : Expression} {list : List Expression}
    (member : condition ∈ (all? list).toList) (mentioned : read ∈ condition.mentioned) :
    ∃ other ∈ list, read ∈ other.mentioned := by
  cases list with
  | nil => simp [all?] at member
  | cons first rest =>
      obtain rfl : condition = rest.foldl conjunction first := by simpa [all?, eq_comm] using member
      exact mentioned_foldl mentioned

end FacetedQuery.Clause.Expression
