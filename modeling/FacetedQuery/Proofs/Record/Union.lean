import FacetedQuery.Proofs.Record.Invariant

/-!
# Merging as a union

A proper record that is merged into another one is united with it: the properties are united by
their names, and the values of two properties with one name by their identities.  On proper records
merging is therefore associative, and a record that has been merged is not merged again.  One record
absorbs another one if merging that one changes nothing; the merged record is the least one that
absorbs both.
-/

namespace FacetedQuery

open Keyed

/-- The values of a property of a record. -/
def Record.valuesOf (record : Record) (name : String) : List RecordValue :=
  ((record.get? name).map Property.values).getD []

/-- The values of a property that arrive are united with those that it has. -/
theorem Property.values_join_eq_union {property incoming : Property}
    (proper : ProperValues property.values) (incomingProper : ProperValues incoming.values) :
    (property.join incoming).values =
      union RecordValue.identity RecordValue.join property.values incoming.values := by
  rw [values_join, gather, foldl_put proper.distinct incomingProper.distinct
    (Record.keeps_identities incomingProper.proper)]

theorem gather_append {values first second : List RecordValue} :
    gather values (first ++ second) = gather (gather values first) second :=
  List.foldl_append

theorem gather_fresh {values : List RecordValue} {value : RecordValue}
    (fresh : value.identity ∉ values.map RecordValue.identity) :
    gather values [value] = values ++ [value] := by
  obtain ⟨-, result⟩ | ⟨before, found, after, rfl, -, same, -⟩ :=
    put_cases RecordValue.identity RecordValue.join value values
  · exact result
  · exact absurd (same ▸ List.mem_map_of_mem (by simp)) fresh

namespace Record

variable {record other third : Record} {name : String}

/-- To push the values of a property one by one is to put the property. -/
theorem pushEntries_property {property : Property}
    (distinct : (property.values.map RecordValue.identity).Nodup) :
    record.pushEntries (property.values.map (property.name, ·)) =
      .of (put Property.name Property.join property record.properties) := by
  obtain ⟨name, first, others⟩ := property
  rw [Property.values, Property.name] at *
  induction others using List.reverseRecOn with
  | nil => exact push_eq
  | append_singleton others last induction =>
      rw [← List.cons_append, List.map_append, List.nodup_append'] at distinct
      have fresh : last.identity ∉ (first :: others).map RecordValue.identity := by
        simpa using distinct.2.2
      have whole : Property.join (.of name first others) (.of name last []) =
          .of name first (others ++ [last]) :=
        Property.ext Property.name_join (by
          rw [Property.values_join]
          exact gather_fresh fresh)
      rw [← List.cons_append, List.map_append, pushEntries, List.foldl_append]
      rw [pushEntries] at induction
      rw [induction distinct.1, List.map_singleton, List.foldl_cons, List.foldl_nil, push_eq]
      refine congrArg Record.of (put_put rfl rfl keeps_names whole fun found _ _ => ?_)
      refine Property.ext (by simp) ?_
      rw [Property.values_join, Property.values_join, Property.values_join]
      exact gather_append.symm

/-- Properties are united by their names. -/
theorem properties_merge (proper : record.Proper) (otherProper : other.Proper) :
    (record.merge other).properties =
      union Property.name Property.join record.properties other.properties := by
  have oneByOne : ∀ (properties : List Property) (record : Record),
      (∀ property ∈ properties, ProperValues property.values) →
      (record.mergeProperties properties).properties =
        properties.foldl (fun items item => put Property.name Property.join item items)
          record.properties := by
    intro properties
    induction properties with
    | nil => exact fun _ _ => rfl
    | cons property rest induction =>
        intro record values
        have first : record.mergeProperty property =
            .of (put Property.name Property.join property record.properties) :=
          mergeProperty_eq.trans
            (pushEntries_property (values property List.mem_cons_self).distinct)
        rw [mergeProperties, induction _ fun property later =>
          values property (List.mem_cons_of_mem _ later), first]
        rfl
  obtain ⟨properties⟩ := other
  exact (oneByOne properties record fun _ found => otherProper.values found).trans
    (foldl_put proper.names otherProper.names keeps_names)

theorem ext {left right : Record} (properties : left.properties = right.properties) :
    left = right := by
  cases left
  cases right
  exact congrArg Record.of properties

end Record

/-- Each value stays, unless it is a record with an id: then a newcomer with this id is merged into
it, and the merged record stands for both. -/
def Retains (before arrived after : List RecordValue) : Prop :=
  ∀ value ∈ before, value ∈ after ∨ ∃ id content newcomer, value = .record content ∧
    content.id? = some id ∧ .record newcomer ∈ arrived ∧ newcomer.id? = some id ∧
    .record (content.merge newcomer) ∈ after

theorem retains_refl (values arrived : List RecordValue) : Retains values arrived values :=
  fun _ found => .inl found

theorem retains_of_join {value incoming : RecordValue} {arrived after : List RecordValue}
    (same : value.identity = incoming.identity) (arrival : incoming ∈ arrived)
    (result : value.join incoming ∈ after) :
    value ∈ after ∨ ∃ id content newcomer, value = .record content ∧ content.id? = some id ∧
      .record newcomer ∈ arrived ∧ newcomer.id? = some id ∧
      .record (content.merge newcomer) ∈ after := by
  obtain ⟨-, -, kept⟩ | ⟨id, content, newcomer, rfl, rfl, known, newKnown, merged⟩ :=
    RecordValue.join_cases same
  · exact .inl (kept ▸ result)
  · exact .inr ⟨id, content, newcomer, rfl, known, arrival, newKnown, merged ▸ result⟩

theorem retains_put (value : RecordValue) (values : List RecordValue) :
    Retains values [value] (put RecordValue.identity RecordValue.join value values) := by
  intro former found
  have outcome : former ∈ put RecordValue.identity RecordValue.join value values ∨
      former.identity = value.identity ∧
        former.join value ∈ put RecordValue.identity RecordValue.join value values :=
    kept_or_joined found
  rcases outcome with kept | ⟨same, joined⟩
  · exact .inl kept
  · exact retains_of_join same List.mem_cons_self joined

theorem retains_union (values incoming : List RecordValue) :
    Retains values incoming (union RecordValue.identity RecordValue.join values incoming) := by
  intro former found
  have inUnion : joined RecordValue.identity RecordValue.join incoming former ∈
      union RecordValue.identity RecordValue.join values incoming :=
    mem_union.mpr (.inl ⟨former, found, rfl⟩)
  obtain ⟨-, kept⟩ | ⟨other, arrived, same, joined⟩ :=
    joined_cases RecordValue.identity RecordValue.join incoming former
  · exact .inl (kept ▸ inUnion)
  · exact retains_of_join same arrived (joined ▸ inUnion)

namespace Record

variable {record other : Record} {name : String}

theorem valuesOf_push (value : RecordValue) (asked : String) :
    (record.push name value).valuesOf asked =
      if name = asked then put RecordValue.identity RecordValue.join value (record.valuesOf asked)
      else record.valuesOf asked := by
  by_cases same : name = asked
  · subst same
    rw [if_pos rfl, valuesOf, get?_push_self, valuesOf]
    cases record.get? name with
    | none => rfl
    | some property => exact Property.values_join
  · rw [if_neg same, valuesOf, get?_push_of_ne same, valuesOf]

theorem retains_push (value : RecordValue) (asked : String) :
    Retains (record.valuesOf asked) (if name = asked then [value] else [])
      ((record.push name value).valuesOf asked) := by
  rw [valuesOf_push]
  split
  · exact retains_put value _
  · exact retains_refl _ _

theorem Proper.valuesOf_eq (proper : record.Proper) {property : Property}
    (found : property ∈ record.properties) : record.valuesOf property.name = property.values := by
  have search : record.get? property.name = some property := find?_key_eq_some proper.names found
  rw [valuesOf, search]
  rfl

theorem mem_of_mem_valuesOf {value : RecordValue} (found : value ∈ record.valuesOf name) :
    ∃ property ∈ record.properties, property.name = name ∧ value ∈ property.values := by
  rw [valuesOf] at found
  cases search : record.get? name with
  | none => simp [search] at found
  | some property =>
      rw [search] at found
      exact ⟨property, List.mem_of_find?_eq_some search, name_of_get? search, found⟩

/-- Merging a record retains what a property holds. -/
theorem retains_merge (proper : record.Proper) (otherProper : other.Proper) (asked : String) :
    Retains (record.valuesOf asked) (other.valuesOf asked)
      ((record.merge other).valuesOf asked) := by
  intro value found
  obtain ⟨property, inRecord, rfl, inside⟩ := mem_of_mem_valuesOf found
  have merged := proper.merge otherProper
  have inMerged : joined Property.name Property.join other.properties property ∈
      (record.merge other).properties := by
    rw [properties_merge proper otherProper]
    exact mem_union.mpr (.inl ⟨property, inRecord, rfl⟩)
  obtain ⟨-, kept⟩ | ⟨incoming, inOther, same, result⟩ :=
    joined_cases Property.name Property.join other.properties property
  · rw [kept] at inMerged
    rw [merged.valuesOf_eq inMerged]
    exact retains_refl _ _ value inside
  · rw [result] at inMerged
    have values := merged.valuesOf_eq inMerged
    rw [Property.name_join, Property.values_join_eq_union (proper.values inRecord)
      (otherProper.values inOther)] at values
    rw [values, same, otherProper.valuesOf_eq inOther]
    exact retains_union _ _ value inside

end Record

namespace RecordValue

variable {value second third : RecordValue}

theorem join_record {content : Record} {id : String} (known : content.id? = some id)
    (other : Record) : join (.record content) (.record other) = .record (content.merge other) := by
  simp [join, known]

/-- Values with one identity are joined associatively if the records among them are merged so. -/
theorem join_assoc (same : value.identity = second.identity)
    (sameNext : second.identity = third.identity) (proper : second.Proper)
    (merging : ∀ content middle last, value = .record content → second = .record middle →
      third = .record last → (content.merge middle).merge last =
        content.merge (middle.merge last)) :
    (value.join second).join third = value.join (second.join third) := by
  obtain ⟨unknown, rfl, kept⟩ | ⟨id, content, middle, rfl, rfl, known, middleKnown, result⟩ :=
    join_cases same
  · obtain ⟨-, rfl, -⟩ | ⟨id, content, last, rfl, rfl, known, -, -⟩ := join_cases sameNext
    · rw [kept, kept]
    · cases unknown.symm.trans known
  · obtain ⟨unknown, -, -⟩ | ⟨_, _, last, equal, rfl, -, -, -⟩ := join_cases sameNext
    · cases unknown.symm.trans middleKnown
    · cases equal
      have kept := Record.id?_merge (proper middle rfl) known middleKnown
      rw [join_record known, join_record middleKnown, join_record known, join_record kept,
        merging content middle last rfl rfl rfl]

theorem join_self (merging : ∀ content, value = .record content → content.merge content = content) :
    value.join value = value := by
  obtain ⟨-, -, kept⟩ | ⟨id, content, other, rfl, equal, -, -, result⟩ :=
    join_cases (Eq.refl value.identity)
  · exact kept
  · cases equal
    rw [result, merging content rfl]

theorem join_join_self (same : value.identity = second.identity) (proper : second.Proper)
    (merging : ∀ content middle, value = .record content → second = .record middle →
      (content.merge middle).merge content = content.merge middle) :
    (value.join second).join value = value.join second := by
  obtain ⟨-, rfl, kept⟩ | ⟨id, content, middle, rfl, rfl, known, middleKnown, result⟩ :=
    join_cases same
  · rw [kept, kept]
  · have kept := Record.id?_merge (proper middle rfl) known middleKnown
    rw [result, join_record kept, merging content middle rfl rfl]

end RecordValue

theorem ProperValues.union {values others : List RecordValue} (proper : ProperValues values)
    (otherProper : ProperValues others) :
    ProperValues (union RecordValue.identity RecordValue.join values others) := by
  refine ⟨nodup_union (Record.keeps_identities otherProper.proper) proper.distinct
    otherProper.distinct, fun value found => ?_⟩
  rcases mem_union.mp found with ⟨former, old, rfl⟩ | ⟨new, -⟩
  · obtain ⟨-, result⟩ | ⟨other, new, same, result⟩ :=
      joined_cases RecordValue.identity RecordValue.join others former
    · rw [result]
      exact proper.proper former old
    · rw [result]
      obtain ⟨-, -, kept⟩ | ⟨id, content, incoming, rfl, rfl, -, -, merged⟩ :=
        RecordValue.join_cases same
      · rw [kept]
        exact proper.proper former old
      · rw [merged]
        rintro result equal
        cases equal
        exact (proper.proper _ old content rfl).merge (otherProper.proper _ new incoming rfl)
  · exact otherProper.proper value new

namespace Property

variable {property second third : Property}

theorem properValues_join (values : ProperValues property.values)
    (secondValues : ProperValues second.values) : ProperValues (property.join second).values := by
  rw [values_join_eq_union values secondValues]
  exact values.union secondValues

theorem join_assoc (values : ProperValues property.values)
    (secondValues : ProperValues second.values) (thirdValues : ProperValues third.values)
    (merging : ∀ content, .record content ∈ property.values → ∀ middle last : Record,
      middle.Proper → last.Proper →
      (content.merge middle).merge last = content.merge (middle.merge last)) :
    (property.join second).join third = property.join (second.join third) := by
  refine ext (by simp) ?_
  rw [values_join_eq_union (properValues_join values secondValues) thirdValues,
    values_join_eq_union values (properValues_join secondValues thirdValues),
    values_join_eq_union values secondValues, values_join_eq_union secondValues thirdValues]
  refine union_assoc secondValues.distinct thirdValues.distinct
    (Record.keeps_identities secondValues.proper) (Record.keeps_identities thirdValues.proper) ?_
  intro value found other inSecond next inThird same sameNext
  refine RecordValue.join_assoc same sameNext (secondValues.proper other inSecond) ?_
  rintro content middle last rfl rfl rfl
  exact merging content found middle last (secondValues.proper _ inSecond middle rfl)
    (thirdValues.proper _ inThird last rfl)

theorem join_self (values : ProperValues property.values)
    (merging : ∀ content, .record content ∈ property.values → content.merge content = content) :
    property.join property = property := by
  refine ext (by simp) ?_
  rw [values_join_eq_union values values]
  refine union_self values.distinct fun value found => RecordValue.join_self ?_
  rintro content rfl
  exact merging content found

theorem join_join_self (values : ProperValues property.values)
    (secondValues : ProperValues second.values)
    (alone : ∀ content, .record content ∈ property.values → content.merge content = content)
    (merging : ∀ content, .record content ∈ property.values → ∀ middle : Record, middle.Proper →
      (content.merge middle).merge content = content.merge middle) :
    (property.join second).join property = property.join second := by
  refine ext (by simp) ?_
  rw [values_join_eq_union (properValues_join values secondValues) values,
    values_join_eq_union values secondValues]
  refine union_union_self values.distinct (Record.keeps_identities secondValues.proper) ?_ ?_
  · refine fun value found => RecordValue.join_self ?_
    rintro content rfl
    exact alone content found
  · refine fun value found other arrived same =>
      RecordValue.join_join_self same (secondValues.proper other arrived) ?_
    rintro content middle rfl rfl
    exact merging content found middle (secondValues.proper _ arrived middle rfl)

end Property

namespace Record

variable {record second third : Record}

/-- Merging is associative, down to the order of names and values.  Induction on the first record:
where three records with one id meet in a property, they are merged in turn. -/
theorem merge_assoc (proper : record.Proper) (secondProper : second.Proper)
    (thirdProper : third.Proper) :
    (record.merge second).merge third = record.merge (second.merge third) := by
  induction record using Record.induction generalizing second third with
  | step record induction =>
      refine Record.ext ?_
      rw [properties_merge (proper.merge secondProper) thirdProper,
        properties_merge proper (secondProper.merge thirdProper),
        properties_merge proper secondProper, properties_merge secondProper thirdProper]
      refine union_assoc secondProper.names thirdProper.names keeps_names keeps_names ?_
      intro first found middle inSecond last inThird _ _
      have values := proper.values found
      exact Property.join_assoc values (secondProper.values inSecond) (thirdProper.values inThird)
        fun content inside middle last middleProper lastProper =>
          induction first found content inside (values.proper _ inside content rfl)
            middleProper lastProper

theorem merge_self (proper : record.Proper) : record.merge record = record := by
  induction record using Record.induction with
  | step record induction =>
      refine Record.ext ?_
      rw [properties_merge proper proper]
      refine union_self proper.names fun property found => ?_
      have values := proper.values found
      exact Property.join_self values fun content inside =>
        induction property found content inside (values.proper _ inside content rfl)

/-- A record into which another one was merged is not merged into the result again. -/
theorem merge_merge_self (proper : record.Proper) (secondProper : second.Proper) :
    (record.merge second).merge record = record.merge second := by
  induction record using Record.induction generalizing second with
  | step record induction =>
      refine Record.ext ?_
      rw [properties_merge (proper.merge secondProper) proper,
        properties_merge proper secondProper]
      have alone : ∀ property ∈ record.properties, ∀ content, .record content ∈ property.values →
          content.merge content = content := fun property found content inside =>
        merge_self ((proper.values found).proper _ inside content rfl)
      refine union_union_self proper.names keeps_names
        (fun property found => Property.join_self (proper.values found) (alone property found)) ?_
      intro property found other inSecond _
      have values := proper.values found
      exact Property.join_join_self values (secondProper.values inSecond) (alone property found)
        fun content inside middle middleProper =>
          induction property found content inside (values.proper _ inside content rfl) middleProper

end Record

end FacetedQuery
