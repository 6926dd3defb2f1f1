import FacetedQuery.Proofs.Clause.Bags
import FacetedQuery.Proofs.ConstraintBlock.Restriction
import Mathlib.Algebra.Group.Action.Defs

/-!
# How often a group binds its target

A group is detached from what stands before it if they share one variable only, which the group
binds.  Then the solutions of both are the joins of their solutions, and the number of those that
bind the shared variable to a term is the product of both numbers.
-/

namespace FacetedQuery.Clause

open Pattern (Admits Confined Satisfies listBindable)
open Rdf (Term Variable)
open scoped Classical

namespace Bag

section

variable {α β : Type*} {property : β → Prop} [DecidablePred property]

theorem countP_bind (bag : Multiset α) (parts : α → Multiset β) :
    (bag.bind parts).countP property = (bag.map fun item => (parts item).countP property).sum := by
  simp [Multiset.countP_eq_card_filter, Multiset.filter_bind, Multiset.card_bind]

theorem sum_indicator (bag : Multiset β) :
    (bag.map fun item => if property item then 1 else 0).sum = bag.countP property := by
  induction bag using Multiset.induction_on with
  | empty => rfl
  | cons item bag induction => simp [Multiset.countP_cons, induction, add_comm]

/-- Two items are counted independently of one another. -/
theorem sum_countP_and {further : α → Prop} [DecidablePred further] (bag : Multiset β)
    (other : Multiset α) :
    (bag.map fun item => other.countP fun second => property item ∧ further second).sum =
      bag.countP property * other.countP further := by
  induction bag using Multiset.induction_on with
  | empty => simp
  | cons item bag induction =>
      rw [Multiset.map_cons, Multiset.sum_cons, induction, Multiset.countP_cons]
      by_cases holds : property item
      · simp [holds, Nat.add_mul, add_comm]
      · simp [holds]

theorem sum_filter (bag : Multiset β) (weight : β → ℕ) :
    (bag.map fun item => if property item then weight item else 0).sum =
      ((bag.filter property).map weight).sum := by
  induction bag using Multiset.induction_on with
  | empty => rfl
  | cons item bag induction => by_cases holds : property item <;> simp [holds, induction]

end

/-- How many solutions bind a variable to a term or leave it open. -/
noncomputable def tally (bag : Bag) (target : Variable) (term : Term) : ℕ :=
  bag.countP (Admits target term)

section

variable {first second : Bag} {target : Variable} {term : Term}

/-- Solutions that share one variable only can be chosen independently of one another. -/
theorem tally_join (anchored : ∀ left ∈ first, left target ≠ none)
    (shared : ∀ left ∈ first, ∀ right ∈ second, ∀ name, left name ≠ none → right name ≠ none →
      name = target) :
    (join first second).tally target term = first.tally target term * second.tally target term := by
  have single : ∀ left ∈ first, tally (second.bind left.meet) target term =
      if Admits target term left then second.tally target term else 0 := by
    intro left member
    obtain ⟨found, bound⟩ := Option.ne_none_iff_exists'.mp (anchored left member)
    have meets : ∀ right ∈ second, left.Compatible right ↔ Admits target found right := by
      intro right memberToo
      constructor
      · exact fun compatible other atRight => (compatible target found other bound atRight).symm
      · intro admits name one two atLeft atRight
        obtain rfl := shared left member right memberToo name (by simp [atLeft]) (by simp [atRight])
        rw [bound] at atLeft
        cases atLeft
        exact (admits two atRight).symm
    -- A right side counts if the term is the one that the left side has at the target.
    have counted : ∀ right ∈ second, (left.meet right).countP (Admits target term) =
        if found = term ∧ Admits target term right then 1 else 0 := by
      intro right memberToo
      by_cases compatible : left.Compatible right
      · have admits := (meets right memberToo).mp compatible
        rw [Binding.meet_of_compatible compatible, ← Multiset.cons_zero, Multiset.countP_cons,
          Multiset.countP_zero, zero_add]
        refine if_congr ?_ rfl rfl
        constructor
        · intro holds
          obtain rfl := holds found (by simp [Binding.merge, bound])
          exact ⟨rfl, admits⟩
        · rintro ⟨rfl, -⟩
          simp [Admits, Binding.merge, bound]
      · rw [Binding.meet_of_not_compatible compatible, Multiset.countP_zero, if_neg]
        rintro ⟨rfl, admits⟩
        exact compatible ((meets right memberToo).mpr admits)
    rw [tally, countP_bind, Multiset.map_congr rfl counted, sum_indicator]
    by_cases same : found = term
    · have admits : Admits target term left := by simp [Admits, bound, same]
      simp [admits, same, tally]
    · have refuses : ¬Admits target term left := by simpa [Admits, bound] using same
      simp [refuses, same]
  rw [tally, join, countP_bind]
  have sums : (first.map fun left => (second.bind left.meet).countP (Admits target term)).sum =
      (first.map fun left => if Admits target term left then second.tally target term else 0).sum :=
    congrArg Multiset.sum (Multiset.map_congr rfl single)
  rw [sums, sum_filter, Multiset.map_const', Multiset.sum_replicate, smul_eq_mul,
    ← Multiset.countP_eq_card_filter, ← tally]

end

/-- A group that binds one variable, shares no other one and stands for itself behind solutions that
leave its own variables open. -/
structure Detached (store : Store) (operators : Operators) (elements : List Pattern)
    (target : Variable) (own : Variable → Prop) : Prop where
  confined : Confined elements target own
  anchored : ∀ solution ∈ listExtend store operators elements { Binding.unbound },
    solution target ≠ none
  joins : ∀ before : Bag,
    (∀ solution ∈ before, ∀ name, own name → name ≠ target → solution name = none) →
      listExtend store operators elements before =
        join before (listExtend store operators elements { Binding.unbound })

section

variable {store : Store} {operators : Operators} {elements first second : List Pattern}
  {target : Variable} {own other : Variable → Prop} {solution : Binding} {term : Term}

theorem free_of_confined (confined : Confined elements target own)
    (member : solution ∈ listExtend store operators elements { Binding.unbound }) {name : Variable}
    (different : name ≠ target) (foreign : ¬own name) : solution name = none := by
  rw [(listExtend_extends elements member).frame name fun bound => ?_]
  · rfl
  · exact (confined.binds name bound).elim different foreign

theorem own_of_bound (confined : Confined elements target own)
    (member : solution ∈ solutions store operators elements) {name : Variable}
    (bound : solution name ≠ none) (different : name ≠ target) : own name := by
  by_contra foreign
  exact bound (free_of_confined confined (mem_solutions.mp member).1 different foreign)

namespace Detached

theorem of_plain (plain : ∀ parts, .optional parts ∉ elements)
    (confined : Confined elements target own) (inside : target ∈ listBindable elements) :
    Detached store operators elements target own where
  confined := confined
  anchored _ member := bound_of_plain plain member inside
  joins _ _ := listExtend_eq_join plain

section

variable (detached : Detached store operators first target own)
  (later : Detached store operators second target other)
  (disjoint : ∀ shared, own shared → other shared → shared = target)

include detached disjoint

theorem fresh_later {name : Variable} (isOther : other name) (different : name ≠ target)
    (member : solution ∈ listExtend store operators first { Binding.unbound }) :
    solution name = none :=
  free_of_confined detached.confined member different fun isOwn =>
    different (disjoint name isOwn isOther)

include later

theorem listExtend_append_eq :
    listExtend store operators (first ++ second) { Binding.unbound } =
      join (listExtend store operators first { Binding.unbound })
        (listExtend store operators second { Binding.unbound }) := by
  rw [listExtend_append]
  exact later.joins _ fun solution member name isOther different =>
    detached.fresh_later disjoint isOther different member

/-- The solutions of two groups behind one another are the joins of their solutions. -/
theorem solutions_append :
    solutions store operators (first ++ second) =
      join (solutions store operators first) (solutions store operators second) := by
  rw [solutions, detached.listExtend_append_eq later disjoint]
  refine filter_join fun left member right memberToo compatible => ?_
  rw [Clause.Pattern.satisfies_append]
  refine and_congr (Pattern.satisfies_congr fun condition inside read mentioned => ?_)
    (Pattern.satisfies_congr fun condition inside read mentioned => ?_)
  · -- What the first group reads it binds itself, or nobody does.
    have isOwn := detached.confined.reads condition inside read mentioned
    cases found : left read with
    | some term => simp [Binding.merge, found]
    | none =>
        have different : read ≠ target := by
          rintro rfl
          exact detached.anchored left member found
        simp [Binding.merge, found, free_of_confined later.confined memberToo different
          fun isOther => different (disjoint read isOwn isOther)]
  · have isOther := later.confined.reads condition inside read mentioned
    by_cases isTarget : read = target
    · subst isTarget
      obtain ⟨one, atLeft⟩ := Option.ne_none_iff_exists'.mp (detached.anchored left member)
      obtain ⟨two, atRight⟩ := Option.ne_none_iff_exists'.mp (later.anchored right memberToo)
      simp [Binding.merge, atLeft, atRight, compatible read one two atLeft atRight]
    · simp [Binding.merge, detached.fresh_later disjoint isOther isTarget member]

theorem append :
    Detached store operators (first ++ second) target fun name => own name ∨ other name where
  confined := detached.confined.append later.confined
  anchored solution member := by
    rw [detached.listExtend_append_eq later disjoint] at member
    obtain ⟨left, inside, right, -, -, rfl⟩ := mem_join.mp member
    obtain ⟨term, bound⟩ := Option.ne_none_iff_exists'.mp (detached.anchored left inside)
    simp [Binding.merge, bound]
  joins before fresh := by
    rw [detached.listExtend_append_eq later disjoint, ← join_assoc, listExtend_append,
      detached.joins before fun solution member name isOwn =>
      fresh solution member name (.inl isOwn)]
    refine later.joins _ fun solution member name isOther different => ?_
    obtain ⟨left, inside, right, insideToo, -, rfl⟩ := mem_join.mp member
    simp [Binding.merge, fresh left inside name (.inr isOther) different,
      detached.fresh_later disjoint isOther different insideToo]

/-- Each solution of one group goes with each of the other that has the same term. -/
theorem tally_append :
    (solutions store operators (first ++ second)).tally target term =
      (solutions store operators first).tally target term *
        (solutions store operators second).tally target term := by
  rw [detached.solutions_append later disjoint]
  refine tally_join (fun left member => detached.anchored left (mem_solutions.mp member).1)
    fun left member right memberToo name atLeft atRight => ?_
  by_contra different
  exact different (disjoint name (own_of_bound detached.confined member atLeft different)
    (own_of_bound later.confined memberToo atRight different))

end

/-- To count the solutions for a term it suffices to start from that term. -/
theorem tally_eq_countP (detached : Detached store operators elements target own) :
    (solutions store operators elements).tally target term =
      (listExtend store operators elements { Binding.single target term }).countP
        (Satisfies operators elements) := by
  have fresh : ∀ solution ∈ ({ Binding.single target term } : Bag), ∀ name, own name →
      name ≠ target → solution name = none := by
    intro solution member name _ different
    obtain rfl := Multiset.mem_singleton.mp member
    exact Binding.single_of_ne different
  have meets : ∀ solution ∈ listExtend store operators elements { Binding.unbound },
      (Binding.single target term).meet solution =
        if Admits target term solution then { solution } else 0 := by
    intro solution member
    have admits : (Binding.single target term).Compatible solution ↔
      Admits target term solution := by
      constructor
      · exact fun compatible other bound =>
          (compatible target term other Binding.single_self bound).symm
      · intro admits name one two atLeft atRight
        by_cases isTarget : name = target
        · subst isTarget
          obtain rfl : term = one := by simpa using atLeft
          exact (admits two atRight).symm
        · simp [Binding.single_of_ne isTarget] at atLeft
    by_cases agrees : Admits target term solution
    · rw [if_pos agrees, Binding.meet_of_compatible (admits.mpr agrees)]
      congr 1
      funext name
      by_cases isTarget : name = target
      · subst isTarget
        obtain ⟨found, bound⟩ := Option.ne_none_iff_exists'.mp (detached.anchored solution member)
        simp [Binding.merge, bound, agrees found bound]
      · simp [Binding.merge, Binding.single_of_ne isTarget]
    · rw [if_neg agrees, Binding.meet_of_not_compatible (mt admits.mp agrees)]
  rw [detached.joins _ fresh, join, Multiset.singleton_bind, Multiset.bind_congr meets,
    ← Multiset.bind_filter, bind_self, tally, solutions, Multiset.countP_filter,
    Multiset.countP_filter]
  exact Multiset.countP_congr rfl fun solution _ => by rw [and_comm]

end Detached

end

end Bag

end FacetedQuery.Clause
