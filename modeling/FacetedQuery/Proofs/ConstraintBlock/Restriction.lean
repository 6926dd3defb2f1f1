import FacetedQuery.Proofs.Clause.Semantics
import FacetedQuery.Proofs.ConstraintBlock.Composition

/-!
# Groups that restrict a variable

A group that restricts a variable by a property of its term, with variables of its own that nobody
else uses.  Two such groups behind one another restrict the variable by both properties.
-/

namespace FacetedQuery.Clause.Pattern

open Rdf (Iri Term Variable)

variable {graph : Graph} {operators : Operators}

/-- A solution that binds a variable to a term, or not at all. -/
def Admits (target : Variable) (term : Term) (solution : Binding) : Prop :=
  ∀ other ∈ solution target, other = term

/-- A group that binds one variable and others of its own, and whose conditions read its own. -/
structure Confined (elements : List Pattern) (target : Variable)
    (own : Variable → Prop) : Prop where
  binds : ∀ bound ∈ listBindable elements, bound = target ∨ own bound
  reads : ∀ condition ∈ conditions elements, ∀ read ∈ condition.mentioned, own read

theorem Confined.append {first second : List Pattern} {target : Variable}
    {own other : Variable → Prop} (confined : Confined first target own)
    (later : Confined second target other) :
    Confined (first ++ second) target fun name => own name ∨ other name where
  binds bound member := by
    rw [listBindable_append, List.mem_append] at member
    rcases member with member | member
    · exact (confined.binds bound member).imp_right .inl
    · exact (later.binds bound member).imp_right .inr
  reads condition member read mentioned := by
    rw [conditions_append, List.mem_append] at member
    rcases member with member | member
    · exact .inl (confined.reads condition member read mentioned)
    · exact .inr (later.reads condition member read mentioned)

/-- A group that restricts a variable by a property of its term and keeps variables of its own. -/
structure Restricts (graph : Graph) (operators : Operators) (elements : List Pattern)
    (target : Variable) (own : Variable → Prop) (property : Term → Prop) : Prop where
  binds : ∀ bound ∈ listBindable elements, bound = target ∨ own bound
  reads : ∀ condition ∈ conditions elements, ∀ read ∈ condition.mentioned, own read
  apart : ¬own target
  meaning : ∀ solution, (∀ fresh, own fresh → solution fresh = none) → ∀ term,
    Admits target term solution →
      ((∃ joined ∈ listExtend graph operators elements { solution },
        Satisfies operators elements joined ∧ Admits target term joined) ↔ property term)

namespace Restricts

variable {first second : List Pattern} {target : Variable} {own other : Variable → Prop}
  {property further : Term → Prop}

theorem confined (restricts : Restricts graph operators first target own property) :
    Confined first target own :=
  ⟨restricts.binds, restricts.reads⟩

theorem nil (target : Variable) :
    Restricts graph operators [] target (fun _ => False) fun _ => True where
  binds := by simp [listBindable]
  reads := by simp [conditions]
  apart := id
  meaning solution _ term admits := by simpa [listExtend, Satisfies, conditions] using admits

theorem congr (restricts : Restricts graph operators first target own property)
    (same : ∀ term, property term ↔ further term) :
    Restricts graph operators first target own further where
  binds := restricts.binds
  reads := restricts.reads
  apart := restricts.apart
  meaning solution fresh term admits :=
    (restricts.meaning solution fresh term admits).trans (same term)

/-- The conditions of a group do not depend on what a later group binds. -/
theorem satisfies_later (restricts : Restricts graph operators first target own property)
    (later : Restricts graph operators second target other further)
    (disjoint : ∀ shared, own shared → ¬other shared) {middle joined : Binding}
    (step : joined ∈ listExtend graph operators second { middle }) :
    Satisfies operators first joined ↔ Satisfies operators first middle := by
  refine satisfies_congr fun condition member read mentioned => ?_
  have isOwn := restricts.reads condition member read mentioned
  refine (listExtend_extends second step).frame read fun bound => ?_
  rcases later.binds read bound with rfl | isOther
  · exact restricts.apart isOwn
  · exact disjoint read isOwn isOther

/-- Two groups that share nothing but the variable they restrict. -/
theorem append (restricts : Restricts graph operators first target own property)
    (later : Restricts graph operators second target other further)
    (disjoint : ∀ shared, own shared → ¬other shared) :
    Restricts graph operators (first ++ second) target (fun name => own name ∨ other name)
      fun term => property term ∧ further term where
  binds := (restricts.confined.append later.confined).binds
  reads := (restricts.confined.append later.confined).reads
  apart := fun isOwn => isOwn.elim restricts.apart later.apart
  meaning solution fresh term admits := by
    have stays : ∀ {middle : Binding}, middle ∈ listExtend graph operators first { solution } →
        ∀ name, other name → middle name = none := by
      intro middle step name isOther
      rw [(listExtend_extends first step).frame name fun bound => ?_, fresh name (.inr isOther)]
      rcases restricts.binds name bound with rfl | isOwn
      · exact later.apart isOther
      · exact disjoint name isOwn isOther
    constructor
    · rintro ⟨joined, member, satisfied, bound⟩
      obtain ⟨middle, step, rest⟩ := mem_listExtend_append.mp member
      obtain ⟨satisfiedFirst, satisfiedSecond⟩ := satisfies_append.mp satisfied
      have boundMiddle : Admits target term middle := fun found holds =>
        bound found ((listExtend_extends second rest).keeps target found holds)
      exact ⟨(restricts.meaning solution (fun name isOwn => fresh name (.inl isOwn)) term admits).mp
          ⟨middle, step, (restricts.satisfies_later later disjoint rest).mp satisfiedFirst,
            boundMiddle⟩,
        (later.meaning middle (stays step) term boundMiddle).mp
          ⟨joined, rest, satisfiedSecond, bound⟩⟩
    · rintro ⟨holds, holdsToo⟩
      obtain ⟨middle, step, satisfiedFirst, boundMiddle⟩ :=
        (restricts.meaning solution (fun name isOwn => fresh name (.inl isOwn)) term admits).mpr
          holds
      obtain ⟨joined, rest, satisfiedSecond, bound⟩ :=
        (later.meaning middle (stays step) term boundMiddle).mpr holdsToo
      exact ⟨joined, mem_listExtend_append.mpr ⟨middle, step, rest⟩,
        satisfies_append.mpr ⟨(restricts.satisfies_later later disjoint rest).mpr satisfiedFirst,
          satisfiedSecond⟩, bound⟩

end Restricts

section

variable {solution joined : Binding} {subject object target : Variable} {path : PropertyPath}

/-- The solution that binds two variables. -/
def pair (subject object : Variable) (first last : Term) : Binding :=
  Function.update (Function.update Binding.unbound subject (some first)) object (some last)

theorem pair_object {first last : Term} : pair subject object first last object = some last :=
  Function.update_self ..

theorem pair_subject {first last : Term} (different : object ≠ subject) :
    pair subject object first last subject = some first := by
  simp [pair, Function.update_of_ne different.symm]

theorem pair_of_ne {first last : Term} {name : Variable} (noSubject : name ≠ subject)
    (noObject : name ≠ object) : pair subject object first last name = none := by
  simp [pair, Function.update_of_ne noSubject, Function.update_of_ne noObject, Binding.unbound]

theorem merge_eq_of_admits {first : Term} {right : Binding} {name : Variable}
    (found : right name = some first) (admits : Admits name first solution) :
    solution.merge right name = some first := by
  cases bound : solution name with
  | none => simp [Binding.merge, bound, found]
  | some other => simp [Binding.merge, bound, admits other bound]

/-- What holds the ends of a triple and nothing else adds them to a solution that admits both. -/
theorem merge_eq_update {first last : Term} {right : Binding}
    (atSubject : right subject = some first) (atObject : right object = some last)
    (outside : ∀ name, name ≠ subject → name ≠ object → right name = none)
    (admitsSubject : Admits subject first solution) (admitsObject : Admits object last solution) :
    solution.merge right =
      Function.update (Function.update solution subject (some first)) object (some last) := by
  funext name
  by_cases isObject : name = object
  · subst isObject
    rw [merge_eq_of_admits atObject admitsObject, Function.update_self]
  · rw [Function.update_of_ne isObject]
    by_cases isSubject : name = subject
    · subst isSubject
      rw [merge_eq_of_admits atSubject admitsSubject, Function.update_self]
    · rw [Function.update_of_ne isSubject]
      simp [Binding.merge, outside name isSubject isObject]

theorem compatible_pair_iff {first last : Term} (different : object ≠ subject) :
    solution.Compatible (pair subject object first last) ↔
      Admits subject first solution ∧ Admits object last solution := by
  constructor
  · exact fun agree =>
      ⟨fun other bound => agree subject other first bound (pair_subject different),
        fun other bound => agree object other last bound pair_object⟩
  · rintro ⟨atSubject, atObject⟩ name one two bound found
    by_cases isObject : name = object
    · subst isObject
      rw [pair_object] at found
      exact (atObject one bound).trans (Option.some.inj found)
    · by_cases isSubject : name = subject
      · subst isSubject
        rw [pair_subject different] at found
        exact (atSubject one bound).trans (Option.some.inj found)
      · rw [pair_of_ne isSubject isObject] at found
        cases found

theorem merge_pair {first last : Term} (different : object ≠ subject)
    (admitsSubject : Admits subject first solution) (admitsObject : Admits object last solution) :
    solution.merge (pair subject object first last) =
      Function.update (Function.update solution subject (some first)) object (some last) :=
  merge_eq_update (pair_subject different) pair_object (fun _ => pair_of_ne) admitsSubject
    admitsObject

/-- A triple between two variables binds both. -/
theorem mem_extend_triple (different : object ≠ subject) :
    joined ∈ (Pattern.triple (.var subject) path (.var object)).extend graph operators
        { solution } ↔
      ∃ first last, graph.related path first last ∧ Admits subject first solution ∧
        Admits object last solution ∧
        joined = Function.update (Function.update solution subject (some first))
          object (some last) := by
  constructor
  · rintro ⟨left, member, right, ⟨first, last, atSubject, atObject, related, outside⟩, compatible,
      rfl⟩
    obtain rfl : solution = left := member.symm
    have admitsSubject : Admits subject first solution := fun other bound =>
      compatible subject other first bound atSubject
    have admitsObject : Admits object last solution := fun other bound =>
      compatible object other last bound atObject
    refine ⟨first, last, related, admitsSubject, admitsObject,
      merge_eq_update atSubject atObject (fun name noSubject noObject => ?_) admitsSubject
        admitsObject⟩
    exact outside name (by simpa [Node.mentioned] using noSubject)
      (by simpa [Node.mentioned] using noObject)
  · rintro ⟨first, last, related, admitsSubject, admitsObject, rfl⟩
    refine ⟨solution, rfl, pair subject object first last,
      ⟨first, last, pair_subject different, pair_object, related,
        fun name noSubject noObject => ?_⟩,
      (compatible_pair_iff different).mpr ⟨admitsSubject, admitsObject⟩,
      (merge_pair different admitsSubject admitsObject).symm⟩
    exact pair_of_ne (by simpa [Node.mentioned] using noSubject)
      (by simpa [Node.mentioned] using noObject)

/-- A triple from a variable that is bound to one that is not. -/
theorem mem_extend_bound {first : Term} (different : object ≠ subject)
    (bound : solution subject = some first) (fresh : solution object = none) :
    joined ∈ (Pattern.triple (.var subject) path (.var object)).extend graph operators
        { solution } ↔
      ∃ last, graph.related path first last ∧
        joined = Function.update solution object (some last) := by
  rw [mem_extend_triple different]
  constructor
  · rintro ⟨start, last, related, admits, -, rfl⟩
    obtain rfl := admits first bound
    exact ⟨last, related, by rw [← bound, Function.update_eq_self]⟩
  · rintro ⟨last, related, rfl⟩
    refine ⟨first, last, related, fun other found => ?_, by simp [Admits, fresh], ?_⟩
    · exact Option.some.inj (found.symm.trans bound)
    · rw [← bound, Function.update_eq_self]

theorem exists_listExtend_cons {element : Pattern} {elements : List Pattern}
    {condition : Binding → Prop} :
    (∃ joined ∈ listExtend graph operators (element :: elements) { solution }, condition joined) ↔
      ∃ middle ∈ element.extend graph operators { solution },
        ∃ joined ∈ listExtend graph operators elements { middle }, condition joined := by
  constructor
  · rintro ⟨joined, member, holds⟩
    obtain ⟨middle, step, rest⟩ := mem_listExtend_cons.mp member
    exact ⟨middle, step, joined, rest, holds⟩
  · rintro ⟨middle, step, joined, rest, holds⟩
    exact ⟨joined, mem_listExtend_cons.mpr ⟨middle, step, rest⟩, holds⟩

/-- A triple that binds the restricted variable leaves its object to be restricted further. -/
theorem exists_target {term : Term} {elements : List Pattern} {condition : Binding → Prop}
    (different : object ≠ target) (admits : Admits target term solution)
    (fresh : solution object = none) :
    (∃ joined ∈ listExtend graph operators
        (.triple (.var target) path (.var object) :: elements) { solution },
        condition joined ∧ Admits target term joined) ↔
      ∃ last, graph.related path term last ∧
        ∃ joined ∈ listExtend graph operators elements
          { Function.update (Function.update solution target (some term)) object (some last) },
          condition joined := by
  rw [exists_listExtend_cons]
  constructor
  · rintro ⟨middle, step, joined, rest, holds, bound⟩
    obtain ⟨first, last, related, -, -, rfl⟩ := (mem_extend_triple different).mp step
    have found := (listExtend_extends elements rest).keeps target first (by
      simp [Function.update_of_ne different.symm])
    obtain rfl := bound first found
    exact ⟨last, related, joined, rest, holds⟩
  · rintro ⟨last, related, joined, rest, holds⟩
    refine ⟨_, (mem_extend_triple different).mpr
      ⟨term, last, related, admits, by simp [Admits, fresh], rfl⟩, joined, rest, holds, ?_⟩
    have found := (listExtend_extends elements rest).keeps target term (by
      simp [Function.update_of_ne different.symm])
    simp [Admits, found]

/-- Inline data for a variable that is not bound yet. -/
theorem mem_extend_values {items : List Iri} (fresh : solution target = none) :
    joined ∈ (Pattern.values target items).extend graph operators { solution } ↔
      ∃ item ∈ items, joined = Function.update solution target (some (.iri item)) := by
  constructor
  · rintro ⟨left, member, _, ⟨item, inside, rfl⟩, -, rfl⟩
    obtain rfl : solution = left := member.symm
    exact ⟨item, inside, Binding.merge_single fresh⟩
  · rintro ⟨item, inside, rfl⟩
    exact ⟨solution, rfl, _, ⟨item, inside, rfl⟩, Binding.compatible_single fresh,
      (Binding.merge_single fresh).symm⟩

/-- What an optional triple binds its object to, if anything. -/
def Optionally (graph : Graph) (path : PropertyPath) (first : Term) : Option Term → Prop
  | some last => graph.related path first last
  | none => ∀ last, ¬graph.related path first last

theorem mem_listExtend_pair (different : object ≠ subject) :
    joined ∈ listExtend graph operators [.triple (.var subject) path (.var object)]
        { Binding.unbound } ↔
      ∃ first last, graph.related path first last ∧ joined = pair subject object first last := by
  rw [mem_listExtend_cons]
  simp [listExtend, mem_extend_triple different, Admits, Binding.unbound, pair]

theorem compatible_pair {first last : Term} (different : object ≠ subject)
    (bound : solution subject = some first) (fresh : solution object = none) :
    solution.Compatible (pair subject object first last) ∧
      solution.merge (pair subject object first last) =
        Function.update solution object (some last) := by
  have admitsSubject : Admits subject first solution := by simp [Admits, bound]
  have admitsObject : Admits object last solution := by simp [Admits, fresh]
  refine ⟨(compatible_pair_iff different).mpr ⟨admitsSubject, admitsObject⟩, ?_⟩
  rw [merge_pair different admitsSubject admitsObject, ← bound, Function.update_eq_self]

/-- An optional triple from a variable that is bound to one that is not. -/
theorem mem_extend_optional {first : Term} (different : object ≠ subject)
    (bound : solution subject = some first) (fresh : solution object = none) :
    joined ∈ (Pattern.optional [.triple (.var subject) path (.var object)]).extend graph operators
        { solution } ↔
      ∃ last?, Optionally graph path first last? ∧
        joined = Function.update solution object last? := by
  constructor
  · rintro (⟨left, member, right, inside, compatible, rfl, -⟩ | ⟨member, nothing⟩)
    · obtain rfl : solution = left := member.symm
      obtain ⟨start, last, related, rfl⟩ := (mem_listExtend_pair different).mp inside
      obtain rfl : first = start := compatible subject first start bound (pair_subject different)
      exact ⟨some last, related, (compatible_pair different bound fresh).2⟩
    · obtain rfl : joined = solution := member
      refine ⟨none, fun last related => ?_, ?_⟩
      · exact nothing _ ((mem_listExtend_pair different).mpr ⟨first, last, related, rfl⟩)
          (compatible_pair different bound fresh).1 (by simp [Satisfies, conditions])
      · rw [← fresh, Function.update_eq_self]
  · rintro ⟨last?, holds, rfl⟩
    cases last? with
    | some last =>
        exact .inl ⟨solution, rfl, _, (mem_listExtend_pair different).mpr ⟨first, last, holds, rfl⟩,
          (compatible_pair different bound fresh).1, (compatible_pair different bound fresh).2.symm,
          by simp [Satisfies, conditions]⟩
    | none =>
        rw [← fresh, Function.update_eq_self]
        refine .inr ⟨rfl, fun right inside compatible _ => ?_⟩
        obtain ⟨start, last, related, rfl⟩ := (mem_listExtend_pair different).mp inside
        obtain rfl : first = start := compatible subject first start bound (pair_subject different)
        exact holds last related

/-- Two optional triples from a variable that is bound to two that are not. -/
theorem mem_listExtend_optionals {first : Term} {other : Variable} {further : PropertyPath}
    (different : object ≠ subject) (differentOther : other ≠ subject) (distinct : other ≠ object)
    (bound : solution subject = some first) (fresh : solution object = none)
    (freshOther : solution other = none) :
    joined ∈ listExtend graph operators
        [.optional [.triple (.var subject) path (.var object)],
          .optional [.triple (.var subject) further (.var other)]] { solution } ↔
      ∃ last? more?, Optionally graph path first last? ∧ Optionally graph further first more? ∧
        joined = Function.update (Function.update solution object last?) other more? := by
  have stillBound : ∀ last?, Function.update solution object last? subject = some first := by
    intro last?
    rw [Function.update_of_ne different.symm, bound]
  have stillFresh : ∀ last?, Function.update solution object last? other = none := by
    intro last?
    rw [Function.update_of_ne distinct, freshOther]
  rw [mem_listExtend_cons]
  constructor
  · rintro ⟨middle, step, rest⟩
    obtain ⟨last?, holds, rfl⟩ := (mem_extend_optional different bound fresh).mp step
    obtain ⟨final, step, rfl⟩ := mem_listExtend_cons.mp rest
    obtain ⟨more?, holdsToo, rfl⟩ :=
      (mem_extend_optional differentOther (stillBound last?) (stillFresh last?)).mp step
    exact ⟨last?, more?, holds, holdsToo, rfl⟩
  · rintro ⟨last?, more?, holds, holdsToo, rfl⟩
    exact ⟨_, (mem_extend_optional different bound fresh).mpr ⟨last?, holds, rfl⟩,
      mem_listExtend_cons.mpr ⟨_, (mem_extend_optional differentOther (stillBound last?)
        (stillFresh last?)).mpr ⟨more?, holdsToo, rfl⟩, rfl⟩⟩

/-- A triple about a variable binds it. -/
theorem bound_of_mem {elements : List Pattern} {object : Node}
    (inside : .triple (.var target) path object ∈ elements)
    (member : joined ∈ listExtend graph operators elements { solution }) :
    joined target ≠ none := by
  induction elements generalizing solution with
  | nil => cases inside
  | cons element elements induction =>
      obtain ⟨middle, step, rest⟩ := mem_listExtend_cons.mp member
      rcases List.mem_cons.mp inside with rfl | inside
      · obtain ⟨left, isLeft, right, ⟨first, last, atSubject, -, -, -⟩, -, rfl⟩ := step
        have found : ∃ term, left.merge right target = some term := by
          cases bound : left target with
          | none => exact ⟨first, by simpa [Binding.merge, bound, Node.term?] using atSubject⟩
          | some term => exact ⟨term, by simp [Binding.merge, bound]⟩
        obtain ⟨term, found⟩ := found
        rw [(listExtend_extends elements rest).keeps target term found]
        simp
      · exact induction inside rest

end

end FacetedQuery.Clause.Pattern
