import FacetedQuery.Proofs.Record.Union
import Mathlib.Data.Multiset.MapFold

/-!
# Records that are alike

Records are alike if they differ in the order of properties and of values at most, at every depth.
A record absorbs another one if merging that one changes nothing.  Absorption is a preorder, in
which the merged record is the least one that absorbs both of its parts, and records that absorb
each other are alike.
-/

namespace FacetedQuery

open Keyed

mutual

inductive RecordValue.Alike : RecordValue → RecordValue → Prop
  | term (text : String) : RecordValue.Alike (.term text) (.term text)
  | record {left right : Record} (contents : left.Alike right) :
      RecordValue.Alike (.record left) (.record right)

/-- Properties with one name whose values correspond one to one. -/
inductive Property.Alike : Property → Property → Prop
  | of {left right : Property} (names : left.name = right.name)
      (values : Multiset.Rel RecordValue.Alike ↑left.values ↑right.values) :
      Property.Alike left right

/-- Records whose properties correspond one to one. -/
inductive Record.Alike : Record → Record → Prop
  | of {left right : Record}
      (properties : Multiset.Rel Property.Alike ↑left.properties ↑right.properties) :
      Record.Alike left right

end

/-- Keyed items correspond one to one if the two lists bear the same keys. -/
theorem Keyed.rel_of_keys {α κ : Type} {key : α → κ} {related : α → α → Prop} {left right : List α}
    (distinct : (left.map key).Nodup) (others : (right.map key).Nodup)
    (keys : ∀ wanted, wanted ∈ left.map key ↔ wanted ∈ right.map key)
    (pairs : ∀ item ∈ left, ∀ other ∈ right, key item = key other → related item other) :
    Multiset.Rel related ↑left ↑right := by
  induction left generalizing right with
  | nil =>
      cases right with
      | nil => exact .zero
      | cons other rest => simpa using keys (key other)
  | cons item rest induction =>
      rw [List.map_cons, List.nodup_cons] at distinct
      obtain ⟨other, found, same⟩ := List.mem_map.mp ((keys (key item)).mp (by simp))
      obtain ⟨before, after, rfl⟩ := List.append_of_mem found
      have arranged : (↑(before ++ other :: after) : Multiset α) =
        other ::ₘ ↑(before ++ after) := by
        rw [Multiset.cons_coe, Multiset.coe_eq_coe]
        exact List.perm_middle
      rw [List.map_append, List.map_cons] at others
      have apart : key other ∉ before.map key ++ after.map key :=
        (List.nodup_cons.mp (List.nodup_middle.mp others)).1
      have othersDistinct : ((before ++ after).map key).Nodup := by
        rw [List.map_append]
        exact (List.nodup_cons.mp (List.nodup_middle.mp others)).2
      rw [arranged, ← Multiset.cons_coe]
      refine .cons (pairs item (by simp) other found same.symm)
        (induction distinct.2 othersDistinct (fun wanted => ?_) fun first inRest second inOthers =>
          pairs first (by simp [inRest]) second ?_)
      · have both := keys wanted
        rw [List.map_append]
        rw [List.map_cons, List.map_append, List.map_cons, List.mem_cons, List.mem_append,
          List.mem_cons] at both
        rw [List.mem_append] at apart ⊢
        grind
      · rw [List.mem_append] at inOthers
        rw [List.mem_append, List.mem_cons]
        exact inOthers.imp_right .inr

namespace Record

/-- A record absorbs another one if merging that one changes nothing. -/
def Absorbs (record other : Record) : Prop :=
  record.merge other = record

variable {record other third : Record}

theorem absorbs_merge_left (proper : record.Proper) (otherProper : other.Proper) :
    (record.merge other).Absorbs record :=
  merge_merge_self proper otherProper

theorem absorbs_merge_right (proper : record.Proper) (otherProper : other.Proper) :
    (record.merge other).Absorbs other := by
  rw [Absorbs, merge_assoc proper otherProper otherProper, merge_self otherProper]

theorem Absorbs.trans (proper : record.Proper) (otherProper : other.Proper)
    (thirdProper : third.Proper) (first : record.Absorbs other) (second : other.Absorbs third) :
    record.Absorbs third := by
  calc
    record.merge third = (record.merge other).merge third := by rw [first]
    _ = record.merge (other.merge third) := merge_assoc proper otherProper thirdProper
    _ = record := by rw [second, first]

theorem Absorbs.merge (proper : record.Proper) (otherProper : other.Proper)
    (thirdProper : third.Proper) (first : record.Absorbs other) (second : record.Absorbs third) :
    record.Absorbs (other.merge third) := by
  rw [Absorbs, ← merge_assoc proper otherProper thirdProper, first, second]

theorem alike_refl (record : Record) : record.Alike record := by
  induction record using Record.induction with
  | step record induction =>
      refine .of (Multiset.rel_refl_of_refl_on fun property found => ?_)
      refine .of rfl (Multiset.rel_refl_of_refl_on fun value inside => ?_)
      cases value with
      | term text => exact .term text
      | record content => exact .record (induction property found content inside)

end Record

/-- Lists that take up each other bear the same keys, and each item is joined by its counterpart. -/
theorem Keyed.rel_of_unions {α κ : Type} [DecidableEq κ] {key : α → κ} {join : α → α → α}
    {related : α → α → Prop} {left right : List α} (distinct : (left.map key).Nodup)
    (others : (right.map key).Nodup) (taken : union key join left right = left)
    (back : union key join right left = right)
    (pairs : ∀ item ∈ left, ∀ other ∈ right, key item = key other → join item other = item →
      join other item = other → related item other) : Multiset.Rel related ↑left ↑right := by
  obtain ⟨known, same⟩ := union_eq_left.mp taken
  obtain ⟨knownBack, sameBack⟩ := union_eq_left.mp back
  refine rel_of_keys distinct others (fun wanted => ⟨?_, ?_⟩)
    fun item found other inRight equal => ?_
  · intro inLeft
    obtain ⟨item, found, rfl⟩ := List.mem_map.mp inLeft
    exact knownBack item found
  · intro inRight
    obtain ⟨item, found, rfl⟩ := List.mem_map.mp inRight
    exact known item found
  · refine pairs item found other inRight equal ?_ ?_
    · have result : joined key join right item = join item other :=
        joined_of_mem others inRight equal
      rw [← result, same item found]
    · have result : joined key join left other = join other item :=
        joined_of_mem distinct found equal.symm
      rw [← result, sameBack other inRight]

theorem RecordValue.alike_of_join {value other : RecordValue}
    (same : value.identity = other.identity) (joined : value.join other = value)
    (back : other.join value = other)
    (records : ∀ content incoming, value = .record content → other = .record incoming →
      content.Absorbs incoming → incoming.Absorbs content → content.Alike incoming) :
    value.Alike other := by
  obtain ⟨-, rfl, -⟩ | ⟨id, content, incoming, rfl, rfl, known, otherKnown, -⟩ := join_cases same
  · cases value with
    | term text => exact .term text
    | record content => exact .record (Record.alike_refl content)
  · rw [join_record known, RecordValue.record.injEq] at joined
    rw [join_record otherKnown, RecordValue.record.injEq] at back
    exact .record (records content incoming rfl rfl joined back)

/-- Records that absorb each other are alike. -/
theorem Record.alike_of_absorbs {record other : Record} (proper : record.Proper)
    (otherProper : other.Proper) (absorbed : record.Absorbs other) (back : other.Absorbs record) :
    record.Alike other := by
  induction record using Record.induction generalizing other with
  | step record induction =>
      have taken := congrArg Record.properties absorbed
      have takenBack := congrArg Record.properties back
      rw [properties_merge proper otherProper] at taken
      rw [properties_merge otherProper proper] at takenBack
      refine .of (rel_of_unions proper.names otherProper.names taken takenBack ?_)
      intro property found incoming inOther same joined joinedBack
      have values := proper.values found
      have otherValues := otherProper.values inOther
      have taken := congrArg Property.values joined
      have takenBack := congrArg Property.values joinedBack
      rw [Property.values_join_eq_union values otherValues] at taken
      rw [Property.values_join_eq_union otherValues values] at takenBack
      refine .of same (rel_of_unions values.distinct otherValues.distinct taken takenBack ?_)
      intro value inside second arrived equal kept keptBack
      refine RecordValue.alike_of_join equal kept keptBack ?_
      rintro content further rfl rfl contentAbsorbs furtherAbsorbs
      exact induction property found content inside (values.proper _ inside content rfl)
        (otherValues.proper _ arrived further rfl) contentAbsorbs furtherAbsorbs

end FacetedQuery
