import FacetedQuery.Assembly
import FacetedQuery.Proofs.Outcome
import Mathlib.Data.List.Sort
import Mathlib.Order.Nat

/-!
# Orders of rows

What an order clause means.  Rows are compared key by key; a later key decides between rows that
the earlier ones do not tell apart.  The ids come last and tell all rows apart, so there is one
sorted arrangement of a set of rows, in whatever order they are found.
-/

namespace FacetedQuery

/-- A total preorder of the values that rows are sorted by. -/
structure Ranking (Value : Type) where
  le : Value → Value → Bool
  total : ∀ first second, le first second = true ∨ le second first = true
  trans : ∀ {first second third}, le first second = true → le second third = true →
    le first third = true

namespace Ranking

variable {Value : Type} (ranking : Ranking Value)

/-- No value comes before all values. -/
def leOption : Option Value → Option Value → Bool
  | none, _ => true
  | some _, none => false
  | some first, some second => ranking.le first second

theorem leOption_total (first second : Option Value) :
    ranking.leOption first second = true ∨ ranking.leOption second first = true := by
  cases first with
  | none => exact .inl rfl
  | some first =>
      cases second with
      | none => exact .inr rfl
      | some second => exact ranking.total first second

theorem leOption_trans {first second third : Option Value}
    (lower : ranking.leOption first second = true) (upper : ranking.leOption second third = true) :
    ranking.leOption first third = true := by
  cases first with
  | none => rfl
  | some first =>
      cases second with
      | none => cases lower
      | some second =>
          cases third with
          | none => cases upper
          | some third => exact ranking.trans lower upper

end Ranking

/-- An entity of a result and the value it is sorted by, if it has one. -/
structure RankedEntity (Id Value : Type) where
  id : Id
  value : Option Value

/-- What rows are compared by. -/
inductive SortKey where
  /-- Whether there is no value, false before true. -/
  | unbound
  | value (direction : SortDirection)
  | id
deriving DecidableEq

namespace SortKey

/-- A key as it stands in an order clause. -/
def render : SortKey → String
  | .unbound => "(!BOUND(?orderBy))"
  | .value .ascending => "ASC(?orderBy)"
  | .value .descending => "DESC(?orderBy)"
  | .id => "?id"

variable {Id Value : Type} [LinearOrder Id] (ranking : Ranking Value)

/-- The first entity does not come behind the second one as far as the key tells. -/
def inOrder : SortKey → RankedEntity Id Value → RankedEntity Id Value → Bool
  | .unbound, first, second => first.value.isSome || second.value.isNone
  | .value .ascending, first, second => ranking.leOption first.value second.value
  | .value .descending, first, second => ranking.leOption second.value first.value
  | .id, first, second => decide (first.id ≤ second.id)

variable {ranking} {key : SortKey} {keys : List SortKey}
  {first second third : RankedEntity Id Value}

theorem inOrder_total (key : SortKey) (first second : RankedEntity Id Value) :
    key.inOrder ranking first second = true ∨ key.inOrder ranking second first = true := by
  cases key with
  | unbound => cases equality : first.value <;> simp [inOrder, equality]
  | value direction =>
      cases direction with
      | ascending => exact ranking.leOption_total first.value second.value
      | descending => exact ranking.leOption_total second.value first.value
  | id => simpa [inOrder] using le_total first.id second.id

theorem inOrder_trans (lower : key.inOrder ranking first second = true)
    (upper : key.inOrder ranking second third = true) : key.inOrder ranking first third = true := by
  cases key with
  | unbound =>
      simp only [inOrder, Bool.or_eq_true] at lower upper ⊢
      cases equality : second.value <;> simp_all
  | value direction =>
      cases direction with
      | ascending => exact ranking.leOption_trans lower upper
      | descending => exact ranking.leOption_trans upper lower
  | id =>
      simp only [inOrder, decide_eq_true_eq] at lower upper ⊢
      exact le_trans lower upper

variable (ranking) in
/-- The first entity does not come behind the second one, by the first key that tells them apart. -/
def before : List SortKey → RankedEntity Id Value → RankedEntity Id Value → Bool
  | [], _, _ => true
  | key :: keys, first, second =>
    key.inOrder ranking first second &&
      (!key.inOrder ranking second first || before keys first second)

theorem before_cons : before ranking (key :: keys) first second = true ↔
    key.inOrder ranking first second = true ∧
      (key.inOrder ranking second first = true → before ranking keys first second = true) := by
  rw [before, Bool.and_eq_true, Bool.or_eq_true, Bool.not_eq_true']
  cases key.inOrder ranking second first <;> simp

theorem before_total (keys : List SortKey) (first second : RankedEntity Id Value) :
    before ranking keys first second = true ∨ before ranking keys second first = true := by
  induction keys with
  | nil => exact .inl rfl
  | cons key keys induction =>
      simp only [before_cons]
      have total : key.inOrder ranking first second = true ∨
          key.inOrder ranking second first = true := inOrder_total key first second
      tauto

theorem before_trans (lower : before ranking keys first second = true)
    (upper : before ranking keys second third = true) :
    before ranking keys first third = true := by
  induction keys with
  | nil => rfl
  | cons key keys induction =>
      obtain ⟨inLower, restLower⟩ := before_cons.mp lower
      obtain ⟨inUpper, restUpper⟩ := before_cons.mp upper
      refine before_cons.mpr ⟨inOrder_trans inLower inUpper, fun back => ?_⟩
      exact induction (restLower (inOrder_trans inUpper back))
        (restUpper (inOrder_trans back inLower))

/-- Entities that no key tells apart have the same id. -/
theorem id_eq_of_before (member : .id ∈ keys) (lower : before ranking keys first second = true)
    (upper : before ranking keys second first = true) : first.id = second.id := by
  induction keys with
  | nil => cases member
  | cons key keys induction =>
      obtain ⟨inLower, restLower⟩ := before_cons.mp lower
      obtain ⟨inUpper, restUpper⟩ := before_cons.mp upper
      rcases List.mem_cons.mp member with rfl | member
      · simp only [inOrder, decide_eq_true_eq] at inLower inUpper
        exact le_antisymm inLower inUpper
      · exact induction member (restLower inUpper) (restUpper inLower)

section

variable {entities others : List (RankedEntity Id Value)}

variable (ranking) in
/-- The entities of a result, sorted by the keys. -/
def sorted (keys : List SortKey) (entities : List (RankedEntity Id Value)) :
    List (RankedEntity Id Value) :=
  entities.mergeSort (before ranking keys)

theorem sorted_perm (keys : List SortKey) (entities : List (RankedEntity Id Value)) :
    (sorted ranking keys entities).Perm entities :=
  List.mergeSort_perm entities _

theorem pairwise_sorted (keys : List SortKey) (entities : List (RankedEntity Id Value)) :
    (sorted ranking keys entities).Pairwise fun first second =>
      before ranking keys first second = true :=
  List.pairwise_mergeSort (fun _ _ _ => before_trans)
    (fun first second => by simpa using before_total keys first second) entities

/-- The order in which the entities are found does not matter. -/
theorem sorted_eq_of_perm (member : .id ∈ keys) (distinct : (entities.map (·.id)).Nodup)
    (arranged : others.Perm entities) :
    sorted ranking keys others = sorted ranking keys entities := by
  have same : (sorted ranking keys others).Perm (sorted ranking keys entities) :=
    (sorted_perm keys others).trans (arranged.trans (sorted_perm keys entities).symm)
  refine same.eq_of_pairwise ?_ (pairwise_sorted keys others) (pairwise_sorted keys entities)
  intro first second isFirst isSecond lower upper
  have inFirst : first ∈ entities := arranged.subset ((sorted_perm keys others).subset isFirst)
  have inSecond : second ∈ entities := (sorted_perm keys entities).subset isSecond
  exact List.inj_on_of_nodup_map distinct inFirst inSecond (id_eq_of_before member lower upper)

/-- Entities without a value come last. -/
theorem valued_first (keys : List SortKey) (entities : List (RankedEntity Id Value)) :
    (sorted ranking (.unbound :: keys) entities).Pairwise fun first second =>
      second.value.isSome = true → first.value.isSome = true := by
  refine (pairwise_sorted (.unbound :: keys) entities).imp ?_
  intro first second ordered valued
  have key := (before_cons.mp ordered).1
  rw [inOrder, Bool.or_eq_true, Option.isNone_iff_eq_none] at key
  refine key.resolve_right fun nothing => ?_
  rw [nothing] at valued
  cases valued

end

end SortKey

namespace SortOrder

/-- The keys of an order of the instances of a class. -/
def keys (spec : ResultClass) (order : SortOrder) : List SortKey :=
  match order.key.or spec.defaultSortKey with
  | none => [.id]
  | some _ => [.unbound, .value order.direction, .id]

theorem id_mem_keys (spec : ResultClass) (order : SortOrder) : .id ∈ order.keys spec := by
  unfold keys
  split <;> simp

theorem exists_keys {spec : ResultClass} {order : SortOrder}
    (applies : order.key.or spec.defaultSortKey ≠ none) :
    ∃ keys, order.keys spec = .unbound :: keys := by
  unfold keys
  split
  · next nothing => exact absurd nothing applies
  · exact ⟨_, rfl⟩

end SortOrder

namespace SortClauses

/-- The order clause lists the keys. -/
theorem clause_ofOrder {spec : ResultClass} {order : SortOrder} {sort : SortClauses}
    (made : ofOrder spec order = .ok sort) :
    sort.clause = "ORDER BY " ++ Text.join " " ((order.keys spec).map SortKey.render) := by
  unfold ofOrder at made
  unfold SortOrder.keys
  cases sorted : order.key.or spec.defaultSortKey with
  | none =>
      rw [sorted] at made
      obtain rfl : byId = sort := Except.ok.inj made
      rfl
  | some key =>
      rw [sorted] at made
      cases found : spec.facet? key with
      | none =>
          simp only [found] at made
          cases made
      | some facet =>
          simp only [found] at made
          obtain ⟨path, -, made⟩ := Outcome.bind_eq_ok.mp made
          obtain rfl : byPath path order.direction = sort := Except.ok.inj made
          cases order.direction <;> rfl

end SortClauses

end FacetedQuery
