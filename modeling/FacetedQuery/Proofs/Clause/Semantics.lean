import FacetedQuery.Clause
import Mathlib.Data.List.Infix
import Mathlib.Data.Set.Insert
import Mathlib.Logic.Relation

/-!
# The meaning of clauses

Clauses over a graph in which every property path relates terms.  A group extends solutions element
by element; its filters see the solutions of the whole group, and an error counts as false.  How a
store compares, converts and lowercases values is left open.
-/

namespace FacetedQuery.Clause

open Rdf (Iri Literal Term Variable)

/-- The terms of some variables. -/
abbrev Binding :=
  Variable → Option Term

namespace Binding

/-- The solution that binds nothing. -/
def unbound : Binding :=
  fun _ => none

def single (target : Variable) (term : Term) : Binding :=
  Function.update unbound target (some term)

/-- Two solutions that agree where both bind a variable. -/
def Compatible (first second : Binding) : Prop :=
  ∀ target left right, first target = some left → second target = some right → left = right

def merge (first second : Binding) : Binding :=
  fun target => (first target).or (second target)

section

variable {target name : Variable} {term : Term} {solution : Binding}

@[simp] theorem single_self : single target term target = some term :=
  Function.update_self ..

theorem single_of_ne (different : name ≠ target) : single target term name = none :=
  Function.update_of_ne different ..

theorem compatible_single (fresh : solution target = none) :
    solution.Compatible (single target term) := by
  intro name left right boundLeft boundRight
  by_cases isTarget : name = target
  · simp [isTarget, fresh] at boundLeft
  · simp [single_of_ne isTarget] at boundRight

theorem merge_single (fresh : solution target = none) :
    solution.merge (single target term) = Function.update solution target (some term) := by
  funext name
  by_cases isTarget : name = target
  · simp [isTarget, merge, fresh]
  · simp [merge, single_of_ne isTarget, Function.update_of_ne isTarget]

end

/-- A solution that binds what another one binds and differs from it in some variables only. -/
structure Extends (solution : Binding) (targets : List Variable) (joined : Binding) : Prop where
  keeps : ∀ target term, solution target = some term → joined target = some term
  frame : ∀ target, target ∉ targets → joined target = solution target

namespace Extends

variable {targets more : List Variable} {first second third other : Binding}

theorem refl : first.Extends targets first :=
  ⟨fun _ _ bound => bound, fun _ _ => rfl⟩

theorem trans (left : first.Extends targets second) (right : second.Extends targets third) :
    first.Extends targets third where
  keeps target term bound := right.keeps target term (left.keeps target term bound)
  frame target outside := (right.frame target outside).trans (left.frame target outside)

theorem mono (left : first.Extends targets second) (inside : targets ⊆ more) :
    first.Extends more second where
  keeps := left.keeps
  frame target outside := left.frame target fun member => outside (inside member)

theorem merge (frame : ∀ target, target ∉ targets → other target = none) :
    first.Extends targets (first.merge other) where
  keeps target term bound := by simp [Binding.merge, bound]
  frame target outside := by simp [Binding.merge, frame target outside]

end Extends

end Binding

/-- The solutions that extend one of the first by one of the second. -/
def join (first second : Set Binding) : Set Binding :=
  { joined | ∃ left ∈ first, ∃ right ∈ second, left.Compatible right ∧ joined = left.merge right }

/-- The solutions that extend one of the first where that is possible, and the others as they
are. -/
def leftJoin (first second : Set Binding) (condition : Binding → Prop) : Set Binding :=
  { joined |
    (∃ left ∈ first, ∃ right ∈ second, left.Compatible right ∧ joined = left.merge right ∧
      condition joined) ∨
    (joined ∈ first ∧ ∀ right ∈ second, joined.Compatible right →
      ¬condition (joined.merge right)) }

/-- What an expression evaluates to: a term, or whether a condition holds. -/
inductive Value where
  | term (value : Term)
  | truth (value : Bool)
deriving DecidableEq

/-- How a store handles values other than by their identity; `none` is an error. -/
structure Operators where
  cast : Iri → Value → Option Value
  atLeast : Value → Value → Option Bool
  atMost : Value → Value → Option Bool
  /-- Whether two values are equal neither of which is an IRI or a blank node. -/
  equal : Value → Value → Option Bool
  /-- Whether a term counts as true. -/
  holds : Term → Option Bool
  lowercase : String → String

/-- A disjunction one side of which may be an error. -/
def either : Option Bool → Option Bool → Option Bool
  | some true, _ => some true
  | _, some true => some true
  | some false, some false => some false
  | _, _ => none

/-- A conjunction one side of which may be an error. -/
def both : Option Bool → Option Bool → Option Bool
  | some false, _ => some false
  | _, some false => some false
  | some true, some true => some true
  | _, _ => none

/-- The text of a term as the function `STR` gives it. -/
def lexical? : Term → Option String
  | .iri value => some value.text
  | .literal value => some value.value
  | .blank _ => none

namespace Value

def isResource : Value → Bool
  | .term (.iri _) => true
  | .term (.blank _) => true
  | _ => false

/-- A literal that is a text, with its language. -/
def string? : Value → Option Literal
  | .term (.literal ⟨value, .plain⟩) => some ⟨value, .plain⟩
  | .term (.literal ⟨value, .tagged language⟩) => some ⟨value, .tagged language⟩
  | _ => none

def str? : Value → Option Value
  | .term value => (lexical? value).map fun text => .term (.literal (.plain text))
  | .truth value => some (.term (.literal (.plain (toString value))))

def contains? (whole part : Value) : Option Value := do
  let whole ← whole.string?
  let part ← part.string?
  if part.kind = .plain ∨ part.kind = whole.kind then
    return .truth (part.value.toList <:+: whole.value.toList)
  else none

end Value

namespace Operators

variable (operators : Operators)

/-- IRIs and blank nodes are equal if they are the same. -/
def isEqual (first second : Value) : Option Bool :=
  if first.isResource || second.isResource then some (first = second)
  else operators.equal first second

def isTrue : Value → Option Bool
  | .term value => operators.holds value
  | .truth value => some value

def lowercase? (value : Value) : Option Value :=
  value.string?.map fun literal =>
    .term (.literal { literal with value := operators.lowercase literal.value })

/-- Whether a value is equal to one of a list, some of which may be errors. -/
def isMember (value : Value) (list : List (Option Value)) : Option Bool :=
  list.foldr (fun item rest => either (item.bind (operators.isEqual value)) rest) (some false)

def call : Builtin → List (Option Value) → Option Value
  | .str, [some value] => value.str?
  | .lcase, [some value] => operators.lowercase? value
  | .contains, [some whole, some part] => whole.contains? part
  | .coalesce, arguments => arguments.findSome? id
  | _, _ => none

end Operators

namespace Expression

mutual

/-- The value of an expression for a solution; `none` is an error. -/
def value? (operators : Operators) (solution : Binding) : Expression → Option Value
  | .var target => (solution target).map .term
  | .iri value => some (.term (.iri value))
  | .literal value => some (.term (.literal value))
  | .member value list =>
    (value.value? operators solution).bind fun found =>
      (operators.isMember found (listValues operators solution list)).map .truth
  | .conjunction left right =>
    (both ((left.value? operators solution).bind operators.isTrue)
      ((right.value? operators solution).bind operators.isTrue)).map .truth
  | .atLeast left right =>
    (left.value? operators solution).bind fun first =>
      (right.value? operators solution).bind fun second =>
        (operators.atLeast first second).map .truth
  | .atMost left right =>
    (left.value? operators solution).bind fun first =>
      (right.value? operators solution).bind fun second =>
        (operators.atMost first second).map .truth
  | .bound target => some (.truth (solution target).isSome)
  | .call function arguments => operators.call function (listValues operators solution arguments)
  | .cast datatype value => (value.value? operators solution).bind (operators.cast datatype)

def listValues (operators : Operators) (solution : Binding) :
    List Expression → List (Option Value)
  | [] => []
  | expression :: rest => expression.value? operators solution :: listValues operators solution rest

end

/-- Whether a condition holds; an error counts as false. -/
def Holds (operators : Operators) (solution : Binding) (condition : Expression) : Prop :=
  (condition.value? operators solution).bind operators.isTrue = some true

mutual

/-- The variables of an expression. -/
def mentioned : Expression → List Variable
  | .var target => [target]
  | .iri _ => []
  | .literal _ => []
  | .member value list => value.mentioned ++ listMentioned list
  | .conjunction left right => left.mentioned ++ right.mentioned
  | .atLeast left right => left.mentioned ++ right.mentioned
  | .atMost left right => left.mentioned ++ right.mentioned
  | .bound target => [target]
  | .call _ arguments => listMentioned arguments
  | .cast _ value => value.mentioned

def listMentioned : List Expression → List Variable
  | [] => []
  | expression :: rest => expression.mentioned ++ listMentioned rest

end

section

variable {operators : Operators} {first second : Binding}

mutual

/-- An expression depends on its variables only. -/
theorem value?_congr : (expression : Expression) →
    (∀ target ∈ expression.mentioned, first target = second target) →
    expression.value? operators first = expression.value? operators second
  | .var target, same => by
      rw [value?, value?, same target (by simp [mentioned])]
  | .iri _, _ => by rw [value?, value?]
  | .literal _, _ => by rw [value?, value?]
  | .member value list, same => by
      rw [value?, value?, value?_congr value fun other member =>
          same other (by simp [mentioned, member]),
        listValues_congr list fun other member => same other (by simp [mentioned, member])]
  | .conjunction left right, same => by
      rw [value?, value?, value?_congr left fun other member =>
          same other (by simp [mentioned, member]),
        value?_congr right fun other member => same other (by simp [mentioned, member])]
  | .atLeast left right, same => by
      rw [value?, value?, value?_congr left fun other member =>
          same other (by simp [mentioned, member]),
        value?_congr right fun other member => same other (by simp [mentioned, member])]
  | .atMost left right, same => by
      rw [value?, value?, value?_congr left fun other member =>
          same other (by simp [mentioned, member]),
        value?_congr right fun other member => same other (by simp [mentioned, member])]
  | .bound target, same => by
      rw [value?, value?, same target (by simp [mentioned])]
  | .call function arguments, same => by
      rw [value?, value?, listValues_congr arguments fun other member =>
        same other (by simpa [mentioned] using member)]
  | .cast _ value, same => by
      rw [value?, value?, value?_congr value fun other member =>
        same other (by simpa [mentioned] using member)]

theorem listValues_congr : (list : List Expression) →
    (∀ target ∈ listMentioned list, first target = second target) →
    listValues operators first list = listValues operators second list
  | [], _ => rfl
  | expression :: rest, same => by
      rw [listValues, listValues, value?_congr expression fun other member =>
          same other (by simp [listMentioned, member]),
        listValues_congr rest fun other member => same other (by simp [listMentioned, member])]

end

end

end Expression

/-- A graph, by the terms that each property path relates. -/
structure Graph where
  related : PropertyPath → Term → Term → Prop
  /-- A repeated path relates terms in any number of steps. -/
  repeated : ∀ path first last,
    related path.zeroOrMore first last ↔ Relation.ReflTransGen (related path) first last

namespace Node

def term? (solution : Binding) : Node → Option Term
  | .var target => solution target
  | .iri value => some (.iri value)

def mentioned : Node → List Variable
  | .var target => [target]
  | .iri _ => []

end Node

/-- The solutions of a triple bind its variables and nothing else. -/
def triples (graph : Graph) (subject : Node) (path : PropertyPath) (object : Node) :
    Set Binding :=
  { solution | ∃ first last, subject.term? solution = some first ∧
    object.term? solution = some last ∧ graph.related path first last ∧
    ∀ target, target ∉ subject.mentioned → target ∉ object.mentioned → solution target = none }

/-- Inline data for one variable. -/
def rows (target : Variable) (items : List Iri) : Set Binding :=
  { solution | ∃ item ∈ items, solution = .single target (.iri item) }

namespace Pattern

/-- The conditions that filters state for the whole group. -/
def conditions (elements : List Pattern) : List Expression :=
  elements.filterMap fun element =>
    match element with
    | .filter condition => some condition
    | _ => none

/-- A solution for which all conditions of a group hold. -/
def Satisfies (operators : Operators) (elements : List Pattern) (solution : Binding) : Prop :=
  ∀ condition ∈ conditions elements, condition.Holds operators solution

mutual

/-- The solutions of a group up to an element, from those up to the element before. -/
def extend (graph : Graph) (operators : Operators) : Pattern → Set Binding → Set Binding
  | .triple subject path object, before => join before (triples graph subject path object)
  | .values target items, before => join before (rows target items)
  | .optional elements, before =>
    leftJoin before (listExtend graph operators elements { Binding.unbound })
      (Satisfies operators elements)
  | .filter _, before => before

def listExtend (graph : Graph) (operators : Operators) :
    List Pattern → Set Binding → Set Binding
  | [], before => before
  | element :: rest, before =>
    listExtend graph operators rest (element.extend graph operators before)

end

/-- The solutions of a group. -/
def solutions (graph : Graph) (operators : Operators) (elements : List Pattern) : Set Binding :=
  { solution | solution ∈ listExtend graph operators elements { Binding.unbound } ∧
    Satisfies operators elements solution }

mutual

/-- The variables that a pattern may bind. -/
def bindable : Pattern → List Variable
  | .triple subject _ object => subject.mentioned ++ object.mentioned
  | .values target _ => [target]
  | .optional elements => listBindable elements
  | .filter _ => []

def listBindable : List Pattern → List Variable
  | [] => []
  | element :: rest => element.bindable ++ listBindable rest

end

section

variable {graph : Graph} {operators : Operators} {element : Pattern}
  {elements first second : List Pattern} {before : Set Binding} {solution joined : Binding}

theorem mem_join {other : Set Binding} :
    joined ∈ join before other ↔ ∃ left ∈ before, joined ∈ join { left } other := by
  simp [join]

theorem mem_leftJoin {other : Set Binding} {condition : Binding → Prop} :
    joined ∈ leftJoin before other condition ↔
      ∃ left ∈ before, joined ∈ leftJoin { left } other condition := by
  constructor
  · rintro (⟨left, member, right, further⟩ | ⟨member, nothing⟩)
    · exact ⟨left, member, .inl ⟨left, rfl, right, further⟩⟩
    · exact ⟨joined, member, .inr ⟨rfl, nothing⟩⟩
  · rintro ⟨left, member, ⟨_, rfl, right, further⟩ | ⟨rfl, nothing⟩⟩
    · exact .inl ⟨_, member, right, further⟩
    · exact .inr ⟨member, nothing⟩

/-- Every solution is extended by itself. -/
theorem mem_extend :
    joined ∈ element.extend graph operators before ↔
      ∃ left ∈ before, joined ∈ element.extend graph operators { left } := by
  cases element with
  | triple subject path object =>
      simp only [extend]
      exact mem_join
  | values target items =>
      simp only [extend]
      exact mem_join
  | optional elements =>
      simp only [extend]
      exact mem_leftJoin
  | filter condition => simp [extend]

theorem mem_listExtend :
    joined ∈ listExtend graph operators elements before ↔
      ∃ left ∈ before, joined ∈ listExtend graph operators elements { left } := by
  induction elements generalizing before with
  | nil => simp [listExtend]
  | cons element elements induction =>
      simp only [listExtend]
      constructor
      · intro member
        obtain ⟨middle, reached, further⟩ := induction.mp member
        obtain ⟨left, start, step⟩ := mem_extend.mp reached
        exact ⟨left, start, induction.mpr ⟨middle, step, further⟩⟩
      · rintro ⟨left, start, member⟩
        obtain ⟨middle, step, further⟩ := induction.mp member
        exact induction.mpr ⟨middle, mem_extend.mpr ⟨left, start, step⟩, further⟩

theorem mem_listExtend_cons :
    joined ∈ listExtend graph operators (element :: elements) { solution } ↔
      ∃ middle ∈ element.extend graph operators { solution },
        joined ∈ listExtend graph operators elements { middle } := by
  rw [listExtend]
  exact mem_listExtend

theorem mem_listExtend_append :
    joined ∈ listExtend graph operators (first ++ second) { solution } ↔
      ∃ middle ∈ listExtend graph operators first { solution },
        joined ∈ listExtend graph operators second { middle } := by
  induction first generalizing solution with
  | nil => simp [listExtend]
  | cons element first induction =>
      rw [List.cons_append, mem_listExtend_cons]
      constructor
      · rintro ⟨middle, step, further⟩
        obtain ⟨last, reached, final⟩ := induction.mp further
        exact ⟨last, mem_listExtend_cons.mpr ⟨middle, step, reached⟩, final⟩
      · rintro ⟨last, reached, final⟩
        obtain ⟨middle, step, further⟩ := mem_listExtend_cons.mp reached
        exact ⟨middle, step, induction.mpr ⟨last, further, final⟩⟩

theorem conditions_append (first second : List Pattern) :
    conditions (first ++ second) = conditions first ++ conditions second :=
  List.filterMap_append

theorem listBindable_append (first second : List Pattern) :
    listBindable (first ++ second) = listBindable first ++ listBindable second := by
  induction first with
  | nil => rfl
  | cons element first induction => simp [listBindable, induction]

theorem satisfies_append :
    Satisfies operators (first ++ second) solution ↔
      Satisfies operators first solution ∧ Satisfies operators second solution := by
  simp only [Satisfies, conditions_append, List.mem_append]
  exact ⟨fun all => ⟨fun condition member => all condition (.inl member),
    fun condition member => all condition (.inr member)⟩,
    fun all condition member => member.elim (all.1 condition) (all.2 condition)⟩

theorem satisfies_congr
    (same : ∀ condition ∈ conditions elements, ∀ read ∈ condition.mentioned,
      solution read = joined read) :
    Satisfies operators elements solution ↔ Satisfies operators elements joined := by
  refine forall₂_congr fun condition member => ?_
  rw [Expression.Holds, Expression.Holds, condition.value?_congr (same condition member)]

end

section

variable {graph : Graph} {operators : Operators}

mutual

/-- A pattern binds none but its own variables, and changes none that is bound. -/
theorem extend_extends : (element : Pattern) → {solution joined : Binding} →
    joined ∈ element.extend graph operators { solution } →
      solution.Extends element.bindable joined
  | .triple subject path object, _, _, member => by
      obtain ⟨_, rfl, right, ⟨_, _, _, _, _, outside⟩, _, rfl⟩ := member
      exact .merge fun target absent => by
        simp only [bindable, List.mem_append, not_or] at absent
        exact outside target absent.1 absent.2
  | .values target items, _, _, member => by
      obtain ⟨_, rfl, right, ⟨item, _, rfl⟩, _, rfl⟩ := member
      exact .merge fun other absent => by
        have different : other ≠ target := by simpa [bindable] using absent
        simp [Binding.single_of_ne different]
  | .optional elements, _, _, member => by
      rcases member with ⟨_, rfl, right, inside, _, rfl, _⟩ | ⟨rfl, _⟩
      · have frame := listExtend_extends elements inside
        exact .merge fun target absent => frame.frame target absent
      · exact .refl
  | .filter _, _, _, member => by
      obtain rfl := member
      exact .refl

theorem listExtend_extends : (elements : List Pattern) → {solution joined : Binding} →
    joined ∈ listExtend graph operators elements { solution } →
      solution.Extends (listBindable elements) joined
  | [], _, _, member => by
      obtain rfl := member
      exact .refl
  | element :: rest, _, _, member => by
      obtain ⟨middle, step, further⟩ := mem_listExtend_cons.mp member
      exact ((extend_extends element step).mono (by simp [listBindable])).trans
        ((listExtend_extends rest further).mono (by simp [listBindable]))

end

end

end Pattern

end FacetedQuery.Clause
