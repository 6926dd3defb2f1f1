import FacetedQuery.Proofs.Clause.Refusal
import FacetedQuery.Proofs.ConstraintBlock.Composition

/-!
# Expressions are told apart by their tokens

Memberships print no parentheses, so the tokens of an expression may start with those of another
one: what follows is then one list after the other in which the shorter one is sought.  Where no
such list follows, the tokens say which expression they are of, whether it can be read or not.
-/

namespace FacetedQuery.Clause

open Rdf (Iri Literal Variable)
open Sparql (Mark Token)
open Sparql.Reader (mark)
open Expression

namespace Expression

/-- The membership of an expression in one list after the other. -/
def members (value : Expression) (lists : List (List Expression)) : Expression :=
  lists.foldl member value

/-- The tokens of lists in each of which something is sought. -/
def memberTokens : List (List Expression) → List Token
  | [] => []
  | list :: rest =>
    .word "IN" :: .mark .openParen :: (listTokens list ++ .mark .closeParen :: memberTokens rest)

variable {value : Expression} {lists : List (List Expression)}

theorem memberTokens_append (first second : List (List Expression)) :
    memberTokens (first ++ second) = memberTokens first ++ memberTokens second := by
  induction first with
  | nil => rfl
  | cons list first induction => simp [memberTokens, induction]

theorem tokens_members (value : Expression) (lists : List (List Expression)) :
    (members value lists).tokens = value.tokens ++ memberTokens lists := by
  induction lists generalizing value with
  | nil => simp [members, memberTokens]
  | cons list lists induction =>
      rw [show members value (list :: lists) = members (member value list) lists from rfl,
        induction, tokens_member]
      simp [memberTokens]

theorem fitting_members : (members value lists).Fitting ↔
    value.Fitting ∧ ∀ list ∈ lists, ListFitting list := by
  induction lists generalizing value with
  | nil => simp [members]
  | cons list lists induction =>
      rw [show members value (list :: lists) = members (member value list) lists from rfl,
        induction]
      simp [Fitting, and_assoc]

theorem exists_members : (expression : Expression) →
    ∃ head lists, IsOperand head ∧ expression = members head lists
  | .member value list => by
      obtain ⟨head, lists, operand, rfl⟩ := exists_members value
      exact ⟨head, lists ++ [list], operand, by simp [members]⟩
  | .var _ | .iri _ | .literal _ | .conjunction _ _ | .atLeast _ _ | .atMost _ _ | .bound _
  | .call _ _ | .cast _ _ => by
      refine ⟨_, [], ?_, rfl⟩
      trivial

/-- The operands and their tokens. -/
inductive Shape : Expression → List Token → Prop where
  | var (target : Variable) : Shape (.var target) [.var target.name]
  | iri (value : Iri) : Shape (.iri value) [.name (.iri value.text)]
  | literal (value : Literal) :
      Shape (.literal value) (.string value.value :: kindTokens value.kind)
  | joined {sign : Mark} {combine : Expression → Expression → Expression}
    (joins : Joins sign combine)
      {left right : Expression} (fitting : left.Fitting) (fittingRight : right.Fitting) :
      Shape (combine left right) (.mark .openParen ::
        ((left.tokens ++ .mark sign :: right.tokens) ++ [.mark .closeParen]))
  | bound (target : Variable) : Shape (.bound target)
      [.word "BOUND", .mark .openParen, .var target.name, .mark .closeParen]
  | call (function : Builtin) {list : List Expression} (fitting : ListFitting list) :
      Shape (.call function list) (.word function.name :: .mark .openParen ::
        (listTokens list ++ [.mark .closeParen]))
  | cast (datatype : Iri) {value : Expression} (fitting : value.Fitting) :
      Shape (.cast datatype value) (.name (.iri datatype.text) :: .mark .openParen ::
        (value.tokens ++ [.mark .closeParen]))

theorem shape {expression : Expression} (operand : expression.IsOperand)
    (fitting : expression.Fitting) : Shape expression expression.tokens := by
  cases expression with
  | var target => exact tokens_var fitting ▸ .var target
  | iri value => exact .iri value
  | literal value => exact tokens_literal value ▸ .literal value
  | member value list => exact absurd operand id
  | conjunction left right =>
      exact Joins.conjunction.tokens left right ▸ .joined .conjunction fitting.1 fitting.2
  | atLeast left right =>
      exact Joins.atLeast.tokens left right ▸ .joined .atLeast fitting.1 fitting.2
  | atMost left right => exact Joins.atMost.tokens left right ▸ .joined .atMost fitting.1 fitting.2
  | bound target => exact tokens_bound fitting ▸ .bound target
  | call function list => exact tokens_call function list ▸ .call function fitting.2
  | cast datatype value => exact tokens_cast datatype value ▸ .cast datatype fitting

end Expression

/-- Of two expressions with the same tokens in front of anything that may follow them, one is sought
in further lists. -/
def Unique (expression : Expression) : Prop :=
  ∀ (other : Expression) (first second : List Token), other.Fitting → Before comparers first →
    Before comparers second → expression.tokens ++ first = other.tokens ++ second →
    ∃ lists, other = members expression lists ∧ first = memberTokens lists ++ second ∨
      expression = members other lists ∧ second = memberTokens lists ++ first

/-- Of two operands with the same tokens in front, none is longer. -/
def UniqueOperand (expression : Expression) : Prop :=
  ∀ (other : Expression) (first second : List Token), other.IsOperand → other.Fitting →
    Before comparers first → Before comparers second →
    expression.tokens ++ first = other.tokens ++ second → expression = other ∧ first = second

/-- What stands behind an expression whose memberships have ended. -/
def enders : List Token :=
  .mark .greaterEqual :: .mark .lessEqual :: conjoiners

theorem enders_subset : enders ⊆ comparers := by
  decide

theorem closers_subset_enders : closers ⊆ enders := by
  decide

section

variable {expression other : Expression} {first second : List Token}

theorem before_memberTokens {lists : List (List Expression)} (before : Before comparers first) :
    Before comparers (memberTokens lists ++ first) := by
  cases lists with
  | nil => exact before
  | cons list lists => exact .cons (by simp [comparers]) _

theorem eq_nil_of_before {lists : List (List Expression)} (before : Before enders first)
    (split : first = memberTokens lists ++ second) : lists = [] := by
  cases lists with
  | nil => rfl
  | cons list lists => exact absurd (before (.word "IN") (by rw [split]; rfl)) (by decide)

theorem Unique.ends (unique : Unique expression) (fitting : other.Fitting)
    (before : Before enders first) (beforeOther : Before enders second)
    (same : expression.tokens ++ first = other.tokens ++ second) :
    expression = other ∧ first = second := by
  obtain ⟨lists, ⟨rfl, split⟩ | ⟨rfl, split⟩⟩ := unique _ _ _ fitting (before.mono enders_subset)
    (beforeOther.mono enders_subset) same
  · obtain rfl := eq_nil_of_before before split
    exact ⟨rfl, split⟩
  · obtain rfl := eq_nil_of_before beforeOther split
    exact ⟨rfl, split.symm⟩

theorem UniqueOperand.unique (unique : UniqueOperand expression) : Unique expression := by
  intro other first second fitting before beforeOther same
  obtain ⟨head, lists, operand, rfl⟩ := exists_members other
  rw [tokens_members, List.append_assoc] at same
  obtain ⟨rfl, rfl⟩ := unique _ _ _ operand (fitting_members.mp fitting).1 before
    (before_memberTokens beforeOther) same
  exact ⟨lists, .inl ⟨rfl, rfl⟩⟩

end

section

variable {list : List Expression}

/-- What follows an item of a list. -/
def furtherTokens : List Expression → List Token
  | [] => []
  | list => .mark .comma :: listTokens list

theorem listTokens_eq (expression : Expression) (list : List Expression) :
    listTokens (expression :: list) = expression.tokens ++ furtherTokens list := by
  cases list with
  | nil => simp [furtherTokens, listTokens, listPieces, Expression.tokens]
  | cons next list => exact listTokens_cons expression next list

theorem before_furtherTokens (list : List Expression) (rest : List Token) :
    Before closers (furtherTokens list ++ .mark .closeParen :: rest) := by
  cases list with
  | nil => exact .cons (by simp [closers]) rest
  | cons next list => exact .cons (by simp [closers]) _

theorem ne_closeParen {expression : Expression} (fitting : expression.Fitting)
    (further rest : List Token) : expression.tokens ++ further ≠ .mark .closeParen :: rest := by
  intro same
  have other := (starts expression fitting further).2
  rw [same] at other
  cases other

/-- The tokens of a list up to its closing parenthesis say which list it is. -/
theorem unique_list (fitting : ListFitting list) (unique : ∀ expression ∈ list, Unique expression)
    {other : List Expression} {first second : List Token} (fittingOther : ListFitting other)
    (same : listTokens list ++ .mark .closeParen :: first =
      listTokens other ++ .mark .closeParen :: second) : list = other ∧ first = second := by
  -- Behind an item stands a comma or the parenthesis, and what ends it tells the two apart.
  induction list generalizing other with
  | nil =>
      cases other with
      | nil => exact ⟨rfl, (List.cons.inj same).2⟩
      | cons next other =>
          rw [listTokens_eq, List.append_assoc] at same
          exact absurd same.symm (ne_closeParen fittingOther.1 _ _)
  | cons expression list induction =>
      cases other with
      | nil =>
          rw [listTokens_eq, List.append_assoc] at same
          exact absurd same (ne_closeParen fitting.1 _ _)
      | cons next other =>
          rw [listTokens_eq, listTokens_eq, List.append_assoc, List.append_assoc] at same
          obtain ⟨rfl, further⟩ := (unique expression (by simp)).ends fittingOther.1
            ((before_furtherTokens _ _).mono closers_subset_enders)
            ((before_furtherTokens _ _).mono closers_subset_enders) same
          have others := fun item inside => unique item (List.mem_cons_of_mem _ inside)
          cases list with
          | nil =>
              cases other with
              | nil => exact ⟨rfl, (List.cons.inj further).2⟩
              | cons next other => cases further
          | cons item list =>
              cases other with
              | nil => cases further
              | cons next other =>
                  obtain ⟨rest, ends⟩ :=
                    induction fitting.2 others fittingOther.2 (List.cons.inj further).2
                  exact ⟨by rw [rest], ends⟩

end

section

variable {left right value : Expression} {list : List Expression}

theorem unique_member (fitting : ListFitting list) (uniqueValue : Unique value)
    (unique : ∀ expression ∈ list, Unique expression) : Unique (.member value list) := by
  intro other first second fittingOther before beforeOther same
  rw [tokens_member, List.append_assoc] at same
  obtain ⟨lists, ⟨rfl, split⟩ | ⟨rfl, rfl⟩⟩ := uniqueValue _ _ _ fittingOther
    (.cons (by simp [comparers]) _) beforeOther same
  · cases lists with
    | nil =>
        refine ⟨[list], .inr ⟨rfl, ?_⟩⟩
        simpa [memberTokens] using split.symm
    | cons found lists =>
        have fittingFound := (fitting_members.mp fittingOther).2 found (by simp)
        have inside : listTokens list ++ .mark .closeParen :: first =
            listTokens found ++ .mark .closeParen :: (memberTokens lists ++ second) := by
          simpa [memberTokens] using split
        obtain ⟨rfl, rfl⟩ := unique_list fitting unique fittingFound inside
        exact ⟨lists, .inl ⟨rfl, rfl⟩⟩
  · refine ⟨lists ++ [list], .inr ⟨by simp [members], ?_⟩⟩
    simp [memberTokens_append, memberTokens]

theorem unique_joined {sign : Mark} {combine : Expression → Expression → Expression}
    (joins : Joins sign combine) (uniqueLeft : Unique left) (uniqueRight : Unique right) :
    UniqueOperand (combine left right) := by
  intro other first second operand fittingOther before beforeOther same
  have enders_of_joins {sign : Mark} {combine : Expression → Expression → Expression}
      (joins : Joins sign combine) (rest : List Token) : Before enders (.mark sign :: rest) :=
    .cons (by cases joins <;> decide) rest
  have shape := shape operand fittingOther
  rw [joins.tokens] at same
  generalize other.tokens = tokens at shape same
  cases shape with
  | joined joinsOther fitting fittingRight =>
      simp only [List.cons_append, List.append_assoc, List.cons.injEq, true_and] at same
      obtain ⟨rfl, behind⟩ := uniqueLeft.ends fitting (enders_of_joins joins _)
        (enders_of_joins joinsOther _) same
      obtain ⟨sameSign, behind⟩ := List.cons.inj behind
      obtain ⟨rfl, ends⟩ := uniqueRight.ends fittingRight (.cons (by decide) first)
        (.cons (by decide) second) behind
      have sameEnds := (List.cons.inj ends).2
      cases joins <;> cases joinsOther <;> first | exact ⟨rfl, sameEnds⟩ | cases sameSign
  | _ => simp at same

theorem unique_call (function : Builtin) (fitting : ListFitting list)
    (unique : ∀ expression ∈ list, Unique expression) : UniqueOperand (.call function list) := by
  intro other first second operand fittingOther before beforeOther same
  have shape := shape operand fittingOther
  rw [tokens_call] at same
  generalize other.tokens = tokens at shape same
  cases shape with
  | call functionOther fittingList =>
      simp only [List.cons_append, List.append_assoc, List.cons.injEq, Token.word.injEq,
        true_and] at same
      obtain ⟨rfl, rfl⟩ := unique_list fitting unique fittingList same.2
      have sameName : function = functionOther := by
        cases function <;> cases functionOther <;> first | rfl | exact absurd same.1 (by decide)
      exact ⟨by rw [sameName], rfl⟩
  | bound target => cases function <;> simp [Builtin.name] at same
  | _ => simp at same

theorem unique_cast (datatype : Iri) (unique : Unique value) :
    UniqueOperand (.cast datatype value) := by
  intro other first second operand fittingOther before beforeOther same
  have shape := shape operand fittingOther
  rw [tokens_cast] at same
  generalize other.tokens = tokens at shape same
  cases shape with
  | cast datatypeOther fitting =>
      simp only [List.cons_append, List.append_assoc, List.cons.injEq, Token.name.injEq,
        Sparql.IriName.iri.injEq, true_and] at same
      obtain ⟨rfl, ends⟩ := unique.ends fitting (.cons (by decide) first)
        (.cons (by decide) second) same.2
      exact ⟨by rw [Iri.text_injective same.1], (List.cons.inj ends).2⟩
  | iri value =>
      obtain ⟨-, rfl⟩ : _ ∧ _ :: _ = second := List.cons.inj same
      exact absurd (beforeOther _ rfl) (by decide)
  | _ => simp at same

end

theorem unique_var {target : Variable} (whole : IsWhole target) : UniqueOperand (.var target) := by
  intro other first second operand fitting before beforeOther same
  have shape := shape operand fitting
  rw [tokens_var whole] at same
  generalize other.tokens = tokens at shape same
  cases shape with
  | var targetOther =>
      simp only [List.cons_append, List.nil_append, List.cons.injEq, Token.var.injEq] at same
      exact ⟨by rw [Variable.ext_name same.1], same.2⟩
  | _ => simp at same

theorem unique_iri (value : Iri) : UniqueOperand (.iri value) := by
  intro other first second operand fitting before beforeOther same
  have shape := shape operand fitting
  change .name (.iri value.text) :: first = _ at same
  generalize other.tokens = tokens at shape same
  cases shape with
  | iri valueOther =>
      simp only [List.cons_append, List.nil_append, List.cons.injEq, Token.name.injEq,
        Sparql.IriName.iri.injEq] at same
      exact ⟨by rw [Iri.text_injective same.1], same.2⟩
  | cast datatype fitting =>
      obtain ⟨-, rfl⟩ := List.cons.inj same
      exact absurd (before _ rfl) (by decide)
  | _ => simp at same

theorem ne_kindTokens {kind : Rdf.LiteralKind} {first second : List Token}
    (before : Before comparers first) (marked : kind ≠ .plain) :
    first ≠ kindTokens kind ++ second := by
  rintro rfl
  cases kind with
  | plain => exact marked rfl
  | tagged language =>
      exact absurd (before (.language language) rfl) (by simp [comparers, conjoiners, closers])
  | typed datatype => exact absurd (before (.mark .doubleCaret) rfl) (by decide)

theorem unique_kind {kind other : Rdf.LiteralKind} {first second : List Token}
    (before : Before comparers first) (beforeOther : Before comparers second)
    (same : kindTokens kind ++ first = kindTokens other ++ second) :
    kind = other ∧ first = second := by
  by_cases bare : kind = .plain
  · subst bare
    by_cases bareOther : other = .plain
    · subst bareOther
      exact ⟨rfl, same⟩
    · exact absurd same (ne_kindTokens before bareOther)
  by_cases bareOther : other = .plain
  · subst bareOther
    exact absurd same.symm (ne_kindTokens beforeOther bare)
  cases kind with
  | plain => exact absurd rfl bare
  | tagged language =>
      cases other with
      | plain => exact absurd rfl bareOther
      | tagged languageOther => simpa [kindTokens] using same
      | typed datatype => cases same
  | typed datatype =>
      cases other with
      | plain => exact absurd rfl bareOther
      | tagged language => cases same
      | typed datatypeOther =>
          simp only [kindTokens, List.cons_append, List.nil_append,
            List.cons.injEq, Token.name.injEq, Sparql.IriName.iri.injEq, true_and] at same
          exact ⟨by rw [Iri.text_injective same.1], same.2⟩

theorem unique_literal (value : Literal) : UniqueOperand (.literal value) := by
  intro other first second operand fitting before beforeOther same
  have shape := shape operand fitting
  rw [tokens_literal] at same
  generalize other.tokens = tokens at shape same
  cases shape with
  | literal valueOther =>
      simp only [List.cons_append, List.cons.injEq, Token.string.injEq] at same
      obtain ⟨kind, ends⟩ := unique_kind before beforeOther same.2
      have sameValue : value = valueOther := by
        cases value
        cases valueOther
        simp_all
      exact ⟨by rw [sameValue], ends⟩
  | _ => simp at same

theorem unique_bound {target : Variable} (whole : IsWhole target) :
    UniqueOperand (.bound target) := by
  intro other first second operand fitting before beforeOther same
  have shape := shape operand fitting
  rw [tokens_bound whole] at same
  generalize other.tokens = tokens at shape same
  cases shape with
  | bound targetOther =>
      simp only [List.cons_append, List.nil_append, List.cons.injEq,
        Token.var.injEq, true_and] at same
      exact ⟨by rw [Variable.ext_name same.1], same.2⟩
  | call function fitting => cases function <;> simp [Builtin.name] at same
  | _ => simp at same

mutual

/-- The tokens of an expression are those of no other. -/
theorem unique : (expression : Expression) → expression.Fitting → Unique expression
  | .var _, whole => (unique_var whole).unique
  | .iri value, _ => (unique_iri value).unique
  | .literal value, _ => (unique_literal value).unique
  | .member value list, fitting =>
      unique_member fitting.2 (unique value fitting.1) (list_unique list fitting.2)
  | .conjunction left right, fitting =>
      (unique_joined .conjunction (unique left fitting.1) (unique right fitting.2)).unique
  | .atLeast left right, fitting =>
      (unique_joined .atLeast (unique left fitting.1) (unique right fitting.2)).unique
  | .atMost left right, fitting =>
      (unique_joined .atMost (unique left fitting.1) (unique right fitting.2)).unique
  | .bound _, whole => (unique_bound whole).unique
  | .call function list, fitting =>
      (unique_call function fitting.2 (list_unique list fitting.2)).unique
  | .cast datatype value, fitting => (unique_cast datatype (unique value fitting)).unique

theorem list_unique : (list : List Expression) → ListFitting list →
    ∀ expression ∈ list, Unique expression
  | [], _ => by simp
  | expression :: rest, fitting => by
      have first := unique expression fitting.1
      have others := list_unique rest fitting.2
      intro other inside
      rcases List.mem_cons.mp inside with rfl | inside
      · exact first
      · exact others other inside

end

theorem render_injective {expression other : Expression} (fitting : expression.Fitting)
    (fittingOther : other.Fitting) (same : expression.render = other.render) :
    expression = other := by
  have tokens : expression.tokens = other.tokens := by
    have read := tokens?_render fitting
    rw [same, tokens?_render fittingOther] at read
    exact (Option.some.inj read).symm
  refine ((unique expression fitting).ends fittingOther .nil .nil ?_).1
  rw [tokens]

end FacetedQuery.Clause
