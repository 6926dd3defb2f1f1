import FacetedQuery.Proofs.Clause.Semantics
import Mathlib.Algebra.BigOperators.Group.Multiset.Basic
import Mathlib.Data.Finset.Basic
import Mathlib.Data.Multiset.Bind

/-!
# Clauses over bags

How often a group has each of its solutions.  A store holds finitely many links for each property
path, some of them several times; a join counts every pair of solutions that agree, inline data
counts its entries, and only a path that is repeated tells no two ways between the same nodes apart.
-/

namespace FacetedQuery.Clause

open Rdf (Iri Term Variable)
open scoped Classical

/-- Solutions with the number of times that each of them occurs. -/
abbrev Bag :=
  Multiset Binding

/-- A finite graph, by the links that each property path finds in it. -/
structure Store where
  nodes : Finset Term
  links : PropertyPath → Multiset (Term × Term)
  inside : ∀ path, ∀ link ∈ links path, link.1 ∈ nodes ∧ link.2 ∈ nodes
  distinct : ∀ path : PropertyPath, (links path.zeroOrMore).Nodup
  /-- A repeated path links nodes in any number of steps. -/
  repeated : ∀ (path : PropertyPath) first last, (first, last) ∈ links path.zeroOrMore ↔
    first ∈ nodes ∧ Relation.ReflTransGen (fun left right => (left, right) ∈ links path) first last

namespace Binding

variable {first second third : Binding}

/-- Two solutions as one, if they agree. -/
noncomputable def meet (first second : Binding) : Bag :=
  if first.Compatible second then {first.merge second} else 0

theorem meet_of_compatible (compatible : first.Compatible second) :
    first.meet second = {first.merge second} :=
  if_pos compatible

theorem meet_of_not_compatible (apart : ¬first.Compatible second) : first.meet second = 0 :=
  if_neg apart

theorem mem_meet {joined : Binding} :
    joined ∈ first.meet second ↔ first.Compatible second ∧ joined = first.merge second := by
  by_cases compatible : first.Compatible second
  · simp [meet_of_compatible compatible, compatible]
  · simp [meet_of_not_compatible compatible, compatible]

theorem compatible_unbound : first.Compatible unbound := by
  intro target left right _ bound
  cases bound

theorem unbound_compatible : unbound.Compatible first := by
  intro target left right bound
  cases bound

theorem meet_unbound : first.meet unbound = {first} := by
  rw [meet_of_compatible compatible_unbound]
  congr 1
  funext target
  simp [merge, unbound]

theorem unbound_meet : unbound.meet first = {first} := by
  rw [meet_of_compatible unbound_compatible]
  congr 1

theorem merge_assoc : (first.merge second).merge third = first.merge (second.merge third) := by
  funext target
  simp [merge, Option.or_assoc]

theorem compatible_merge_left (compatible : first.Compatible second) :
    (first.merge second).Compatible third ↔ first.Compatible third ∧ second.Compatible third := by
  constructor
  · intro agree
    refine ⟨fun target left right bound => agree target left right (by simp [merge, bound]), ?_⟩
    intro target left right bound
    cases found : first target with
    | none => exact agree target left right (by simp [merge, found, bound])
    | some other =>
        rw [← compatible target other left found bound]
        exact agree target other right (by simp [merge, found])
  · rintro ⟨agree, agreeToo⟩ target left right bound
    cases found : first target with
    | none => exact agreeToo target left right (by simpa [merge, found] using bound)
    | some other =>
        obtain rfl : other = left := by simpa [merge, found] using bound
        exact agree target other right found

theorem compatible_merge_right (compatible : second.Compatible third) :
    first.Compatible (second.merge third) ↔ first.Compatible second ∧ first.Compatible third := by
  constructor
  · intro agree
    refine ⟨fun target left right bound found =>
      agree target left right bound (by simp [merge, found]), ?_⟩
    intro target left right bound found
    cases between : second target with
    | none => exact agree target left right bound (by simp [merge, between, found])
    | some other =>
        rw [← compatible target other right between found]
        exact agree target left other bound (by simp [merge, between])
  · rintro ⟨agree, agreeToo⟩ target left right bound found
    cases between : second target with
    | none => exact agreeToo target left right bound (by simpa [merge, between] using found)
    | some other =>
        obtain rfl : other = right := by simpa [merge, between] using found
        exact agree target left other bound between

/-- Three solutions meet in any order. -/
theorem meet_assoc :
    (first.meet second).bind (fun joined => joined.meet third) =
      (second.meet third).bind first.meet := by
  by_cases left : first.Compatible second
  · by_cases right : second.Compatible third
    · rw [meet_of_compatible left, meet_of_compatible right, Multiset.singleton_bind,
        Multiset.singleton_bind]
      by_cases outer : first.Compatible third
      · rw [meet_of_compatible ((compatible_merge_left left).mpr ⟨outer, right⟩),
          meet_of_compatible ((compatible_merge_right right).mpr ⟨left, outer⟩), merge_assoc]
      · rw [meet_of_not_compatible fun agree => outer ((compatible_merge_left left).mp agree).1,
          meet_of_not_compatible fun agree => outer ((compatible_merge_right right).mp agree).2]
    · rw [meet_of_compatible left, meet_of_not_compatible right, Multiset.singleton_bind,
        Multiset.zero_bind,
        meet_of_not_compatible fun agree => right ((compatible_merge_left left).mp agree).2]
  · by_cases right : second.Compatible third
    · rw [meet_of_not_compatible left, meet_of_compatible right, Multiset.singleton_bind,
        Multiset.zero_bind,
        meet_of_not_compatible fun agree => left ((compatible_merge_right right).mp agree).1]
    · rw [meet_of_not_compatible left, meet_of_not_compatible right, Multiset.zero_bind,
        Multiset.zero_bind]

end Binding

namespace Bag

noncomputable def join (first second : Bag) : Bag :=
  first.bind fun left => second.bind left.meet

/-- The solutions of the first extended by the second, or as they are where nothing extends them. -/
noncomputable def leftJoin (first second : Bag) (condition : Binding → Prop) : Bag :=
  first.bind fun left =>
    if (second.bind left.meet).filter condition = 0 then {left}
    else (second.bind left.meet).filter condition

section

variable {first second third : Bag} {joined : Binding}

theorem mem_join : joined ∈ join first second ↔
    ∃ left ∈ first, ∃ right ∈ second, left.Compatible right ∧ joined = left.merge right := by
  simp [join, Binding.mem_meet]

theorem bind_self : (first.bind fun solution => { solution }) = first := by
  rw [Multiset.bind_singleton, Multiset.map_id']

theorem unbound_join : join { Binding.unbound } first = first := by
  rw [join, Multiset.singleton_bind, Multiset.bind_congr fun _ _ => Binding.unbound_meet, bind_self]

theorem join_unbound : join first { Binding.unbound } = first := by
  simp only [join, Multiset.singleton_bind, Binding.meet_unbound, bind_self]

theorem join_assoc : join (join first second) third = join first (join second third) := by
  simp only [join, Multiset.bind_assoc]
  refine Multiset.bind_congr fun left _ => Multiset.bind_congr fun middle _ => ?_
  rw [Multiset.bind_bind]
  exact Multiset.bind_congr fun right _ => Binding.meet_assoc

/-- A filter that reads each side of a join alone. -/
theorem filter_join {property further both : Binding → Prop} [DecidablePred property]
    [DecidablePred further] [DecidablePred both]
    (separate : ∀ left ∈ first, ∀ right ∈ second, left.Compatible right →
      (both (left.merge right) ↔ property left ∧ further right)) :
    (join first second).filter both = join (first.filter property) (second.filter further) := by
  rw [join, join, Multiset.filter_bind, Multiset.bind_filter]
  refine Multiset.bind_congr fun left member => ?_
  rw [Multiset.filter_bind, Multiset.bind_filter]
  have single : ∀ right ∈ second, (left.meet right).filter both =
      if property left ∧ further right then left.meet right else 0 := by
    intro right memberToo
    by_cases compatible : left.Compatible right
    · rw [Binding.meet_of_compatible compatible, Multiset.filter_singleton]
      simp only [separate left member right memberToo compatible]
      rfl
    · simp [Binding.meet_of_not_compatible compatible]
  rw [Multiset.bind_congr single]
  by_cases holds : property left <;> simp [holds]

/-- An optional part of a joined group only concerns the group if nothing else is shared. -/
theorem leftJoin_join {condition : Binding → Prop} (always : ∀ solution, condition solution)
    (shared : ∀ left ∈ first, ∀ middle ∈ second, ∀ right ∈ third, ∀ name, left name ≠ none →
      right name ≠ none → middle name ≠ none) :
    leftJoin (join first second) third condition =
      join first (leftJoin second third condition) := by
  have unfiltered : ∀ bag : Bag, bag.filter condition = bag := fun bag =>
    Multiset.filter_eq_self.mpr fun solution _ => always solution
  simp only [leftJoin, join, unfiltered, Multiset.bind_assoc]
  refine Multiset.bind_congr fun left member => Multiset.bind_congr fun middle memberToo => ?_
  by_cases compatible : left.Compatible middle
  · -- What extends the middle extends the whole, since the left side has no say in it.
    have extends' : ∀ right ∈ third, (left.merge middle).meet right =
        (middle.meet right).bind left.meet := by
      intro right _
      rw [← Binding.meet_assoc, Binding.meet_of_compatible compatible, Multiset.singleton_bind]
    have agree : ∀ right ∈ third, middle.Compatible right → left.Compatible right := by
      intro right inside compatibleToo name one two atLeft atRight
      cases atMiddle : middle name with
      | none =>
          exact absurd atMiddle
            (shared left member middle memberToo right inside name (by simp [atLeft])
              (by simp [atRight]))
      | some other =>
          rw [compatible name one other atLeft atMiddle]
          exact compatibleToo name other two atMiddle atRight
    have empty : third.bind (left.merge middle).meet = 0 ↔ third.bind middle.meet = 0 := by
      simp only [Multiset.eq_zero_iff_forall_notMem, Multiset.mem_bind,
        Binding.mem_meet, not_exists, not_and]
      constructor
      · intro nothing joined right inside compatibleToo _
        exact nothing _ right inside ((Binding.compatible_merge_left compatible).mpr
          ⟨agree right inside compatibleToo, compatibleToo⟩) rfl
      · intro nothing joined right inside compatibleToo _
        exact nothing _ right inside ((Binding.compatible_merge_left compatible).mp compatibleToo).2
          rfl
    rw [Binding.meet_of_compatible compatible, Multiset.singleton_bind]
    by_cases disjoint : third.bind middle.meet = 0
    · rw [if_pos disjoint, if_pos (empty.mpr disjoint), Multiset.singleton_bind,
        Binding.meet_of_compatible compatible]
    · rw [if_neg disjoint, if_neg (mt empty.mp disjoint), Multiset.bind_assoc,
        Multiset.bind_congr extends']
  · rw [Binding.meet_of_not_compatible compatible, Multiset.zero_bind, eq_comm,
      Multiset.eq_zero_iff_forall_notMem]
    intro joined found
    obtain ⟨extended, inside, met⟩ := Multiset.mem_bind.mp found
    obtain ⟨agree, -⟩ := Binding.mem_meet.mp met
    refine compatible fun name one two atLeft atMiddle => agree name one two atLeft ?_
    split at inside
    · obtain rfl := Multiset.mem_singleton.mp inside
      exact atMiddle
    · obtain ⟨right, -, met⟩ := Multiset.mem_bind.mp inside
      obtain ⟨-, rfl⟩ := Binding.mem_meet.mp met
      simp [Binding.merge, atMiddle]

end

/-- What binds a node to a term. -/
def atNode (term : Term) : Node → Bag
  | .var target => { .single target term }
  | .iri value => if term = .iri value then { .unbound } else 0

noncomputable def triples (store : Store) (subject : Node) (path : PropertyPath) (object : Node) :
    Bag :=
  (store.links path).bind fun link => join (atNode link.1 subject) (atNode link.2 object)

def rows (target : Variable) (items : List Iri) : Bag :=
  (items : Multiset Iri).map fun item => Binding.single target (.iri item)

mutual

/-- The solutions of a group up to an element, from those up to the element before. -/
noncomputable def extend (store : Store) (operators : Operators) : Pattern → Bag → Bag
  | .triple subject path object, before => join before (triples store subject path object)
  | .values target items, before => join before (rows target items)
  | .optional elements, before =>
    leftJoin before (listExtend store operators elements { Binding.unbound })
      (Pattern.Satisfies operators elements)
  | .filter _, before => before

noncomputable def listExtend (store : Store) (operators : Operators) : List Pattern → Bag → Bag
  | [], before => before
  | element :: rest, before =>
    listExtend store operators rest (extend store operators element before)

end

/-- The solutions of a group. -/
noncomputable def solutions (store : Store) (operators : Operators)
    (elements : List Pattern) : Bag :=
  (listExtend store operators elements { Binding.unbound }).filter
    (Pattern.Satisfies operators elements)

section

variable {store : Store} {operators : Operators} {element : Pattern}
  {elements first second : List Pattern} {before : Bag} {solution joined : Binding}

theorem mem_solutions : solution ∈ solutions store operators elements ↔
    solution ∈ listExtend store operators elements { Binding.unbound } ∧
      Pattern.Satisfies operators elements solution :=
  Multiset.mem_filter

theorem listExtend_append :
    listExtend store operators (first ++ second) before =
      listExtend store operators second (listExtend store operators first before) := by
  induction first generalizing before with
  | nil => rfl
  | cons element first induction => exact induction

theorem extend_bind : extend store operators element before =
    before.bind fun solution => extend store operators element { solution } := by
  cases element with
  | triple subject path object => simp [extend, join]
  | values target items => simp [extend, join]
  | optional elements => simp [extend, leftJoin]
  | filter condition => exact bind_self.symm

theorem listExtend_bind : listExtend store operators elements before =
    before.bind fun solution => listExtend store operators elements { solution } := by
  induction elements generalizing before with
  | nil => exact bind_self.symm
  | cons element elements induction =>
      calc listExtend store operators (element :: elements) before
          = (extend store operators element before).bind fun middle =>
              listExtend store operators elements { middle } := induction
        _ = before.bind fun solution => (extend store operators element { solution }).bind
              fun middle => listExtend store operators elements { middle } := by
            rw [extend_bind, Multiset.bind_assoc]
        _ = before.bind fun solution =>
              listExtend store operators (element :: elements) { solution } :=
            Multiset.bind_congr fun solution _ => induction.symm

theorem mem_listExtend_cons :
    joined ∈ listExtend store operators (element :: elements) { solution } ↔
      ∃ middle ∈ extend store operators element { solution },
        joined ∈ listExtend store operators elements { middle } := by
  rw [listExtend, listExtend_bind, Multiset.mem_bind]

theorem mem_atNode {node : Node} {term : Term} (member : solution ∈ atNode term node) :
    (∀ target ∈ node.mentioned, solution target ≠ none) ∧
      ∀ target, target ∉ node.mentioned → solution target = none := by
  cases node with
  | var name =>
      obtain rfl := Multiset.mem_singleton.mp member
      constructor
      · simp [Node.mentioned]
      · intro target absent
        exact Binding.single_of_ne (by simpa [Node.mentioned] using absent)
  | iri value =>
      by_cases same : term = .iri value
      · obtain rfl : solution = .unbound := by simpa [atNode, same] using member
        simp [Node.mentioned, Binding.unbound]
      · simp [atNode, same] at member

/-- The solutions of a triple bind its variables and nothing else. -/
theorem mem_triples {subject object : Node} {path : PropertyPath}
    (member : solution ∈ triples store subject path object) :
    (∀ target ∈ subject.mentioned ++ object.mentioned, solution target ≠ none) ∧
      ∀ target, target ∉ subject.mentioned ++ object.mentioned → solution target = none := by
  obtain ⟨link, -, inside⟩ := Multiset.mem_bind.mp member
  obtain ⟨left, atSubject, right, atObject, -, rfl⟩ := mem_join.mp inside
  obtain ⟨boundLeft, freeLeft⟩ := mem_atNode atSubject
  obtain ⟨boundRight, freeRight⟩ := mem_atNode atObject
  constructor
  · intro target inside
    rcases List.mem_append.mp inside with inside | inside
    · cases found : left target with
      | none => exact absurd found (boundLeft target inside)
      | some term => simp [Binding.merge, found]
    · cases found : right target with
      | none => exact absurd found (boundRight target inside)
      | some term => cases other : left target <;> simp [Binding.merge, found, other]
  · intro target absent
    simp only [List.mem_append, not_or] at absent
    simp [Binding.merge, freeLeft target absent.1, freeRight target absent.2]

mutual

/-- A pattern binds none but its own variables, and changes none that is bound. -/
theorem extend_extends : (element : Pattern) → {solution joined : Binding} →
    joined ∈ extend store operators element { solution } →
      solution.Extends element.bindable joined
  | .triple subject path object, _, _, member => by
      obtain ⟨left, isLeft, right, found, -, rfl⟩ := mem_join.mp member
      obtain rfl := Multiset.mem_singleton.mp isLeft
      exact .merge (mem_triples found).2
  | .values target items, _, _, member => by
      obtain ⟨left, isLeft, right, found, -, rfl⟩ := mem_join.mp member
      obtain rfl := Multiset.mem_singleton.mp isLeft
      obtain ⟨item, -, rfl⟩ := Multiset.mem_map.mp found
      exact .merge fun other absent => by
        have different : other ≠ target := by simpa [Pattern.bindable] using absent
        simp [Binding.single_of_ne different]
  | .optional elements, _, _, member => by
      rw [extend, leftJoin, Multiset.singleton_bind] at member
      split at member
      · obtain rfl := Multiset.mem_singleton.mp member
        exact .refl
      · obtain ⟨right, found, met⟩ := Multiset.mem_bind.mp (Multiset.mem_of_mem_filter member)
        obtain ⟨-, rfl⟩ := Binding.mem_meet.mp met
        have frame := listExtend_extends elements found
        exact .merge fun target absent => frame.frame target absent
  | .filter _, _, _, member => by
      obtain rfl := Multiset.mem_singleton.mp member
      exact .refl

theorem listExtend_extends : (elements : List Pattern) → {solution joined : Binding} →
    joined ∈ listExtend store operators elements { solution } →
      solution.Extends (Pattern.listBindable elements) joined
  | [], _, _, member => by
      obtain rfl := Multiset.mem_singleton.mp member
      exact .refl
  | element :: rest, _, _, member => by
      obtain ⟨middle, step, further⟩ := mem_listExtend_cons.mp member
      exact ((extend_extends element step).mono (by simp [Pattern.listBindable])).trans
        ((listExtend_extends rest further).mono (by simp [Pattern.listBindable]))

end

/-- A group without optional parts is joined to whatever stands before it. -/
theorem listExtend_eq_join (plain : ∀ parts, .optional parts ∉ elements) :
    listExtend store operators elements before =
      join before (listExtend store operators elements { Binding.unbound }) := by
  induction elements generalizing before with
  | nil => exact join_unbound.symm
  | cons element elements induction =>
      have rest : ∀ {bag : Bag}, listExtend store operators elements bag =
          join bag (listExtend store operators elements { Binding.unbound }) :=
        induction fun parts inside => plain parts (List.mem_cons_of_mem _ inside)
      cases element with
      | triple subject path object =>
          rw [listExtend, listExtend, extend, extend, unbound_join, rest, join_assoc, ← rest]
      | values target items =>
          rw [listExtend, listExtend, extend, extend, unbound_join, rest, join_assoc, ← rest]
      | optional parts => exact absurd List.mem_cons_self (plain parts)
      | filter condition => exact rest

/-- A group without optional parts binds all of its variables. -/
theorem bound_of_plain (plain : ∀ parts, .optional parts ∉ elements)
    (member : joined ∈ listExtend store operators elements { solution }) {name : Variable}
    (inside : name ∈ Pattern.listBindable elements) : joined name ≠ none := by
  induction elements generalizing solution with
  | nil => simp [Pattern.listBindable] at inside
  | cons element elements induction =>
      obtain ⟨middle, step, rest⟩ := mem_listExtend_cons.mp member
      rw [Pattern.listBindable, List.mem_append] at inside
      rcases inside with inside | inside
      · have found : middle name ≠ none := by
          cases element with
          | triple subject path object =>
              obtain ⟨left, -, right, found, -, rfl⟩ := mem_join.mp step
              have bound := (mem_triples found).1 name inside
              cases atLeft : left name <;> simp [Binding.merge, atLeft, bound]
          | values target items =>
              obtain ⟨left, -, right, found, -, rfl⟩ := mem_join.mp step
              obtain ⟨item, -, rfl⟩ := Multiset.mem_map.mp found
              obtain rfl : name = target := by simpa [Pattern.bindable] using inside
              cases atLeft : left name <;> simp [Binding.merge, atLeft]
          | optional parts => exact absurd List.mem_cons_self (plain parts)
          | filter condition => simp [Pattern.bindable] at inside
        obtain ⟨term, bound⟩ := Option.ne_none_iff_exists'.mp found
        rw [(listExtend_extends elements rest).keeps name term bound]
        simp
      · exact induction (fun parts member => plain parts (List.mem_cons_of_mem _ member)) rest
          inside

end

end Bag

end FacetedQuery.Clause
