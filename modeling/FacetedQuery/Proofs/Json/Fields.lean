import FacetedQuery.Json.Fields
import FacetedQuery.Proofs.Json.Reading
import Mathlib.Data.List.Nodup

/-!
# Structures are read back

A structure is written with its fields by distinct names, those left out that have no content.  So
each name leads to its own field, and the readers of fields find what was written for them.
-/

namespace FacetedQuery.Json

variable {α : Type} {inner? : Value → Option α} {write : α → Value}

theorem occurrences_le_one {members : List (String × Value)}
    (distinct : (members.map Prod.fst).Nodup) (name : String) : occurrences name members ≤ 1 := by
  have counted : occurrences name members = (members.map Prod.fst).count name := by
    rw [occurrences, ← List.countP_eq_length_filter, List.count, List.countP_map]
    rfl
  rw [counted]
  exact List.nodup_iff_count_le_one.mp distinct name

/-- An object without a repeated key is a structure of any fields. -/
theorem fields?_object {members : List (String × Value)} (distinct : (members.map Prod.fst).Nodup)
    (names : List String) : (Value.object members).fields? names = some ⟨members⟩ := by
  have single : (names.all fun name => occurrences name members ≤ 1) = true := by
    simp [occurrences_le_one distinct]
  simp only [Value.fields?, single, if_true]

variable {members : List (String × Option Value)}

theorem sublist_presentMembers (members : List (String × Option Value)) :
    ((presentMembers members).map Prod.fst).Sublist (members.map Prod.fst) := by
  induction members with
  | nil => exact List.Sublist.slnil
  | cons member members induction =>
      obtain ⟨name, content⟩ := member
      cases content with
      | none => exact induction.cons name
      | some value => exact induction.cons_cons name

theorem fields?_present (distinct : (members.map Prod.fst).Nodup) (names : List String) :
    (Value.object (presentMembers members)).fields? names = some ⟨presentMembers members⟩ :=
  fields?_object (distinct.sublist (sublist_presentMembers members)) names

/-- A name leads to the content of its field. -/
theorem lookup_present (distinct : (members.map Prod.fst).Nodup) (name : String) :
    lookup name (presentMembers members) = (members.find? (·.1 == name)).bind (·.2) := by
  induction members with
  | nil => rfl
  | cons member members induction =>
      obtain ⟨found, content⟩ := member
      obtain ⟨fresh, others⟩ := List.nodup_cons.mp distinct
      have further := induction others
      by_cases same : found = name
      · subst same
        cases content with
        | some value => simp [lookup, presentMembers]
        | none =>
            have absent : members.find? (·.1 == found) = none := by
              rw [List.find?_eq_none]
              rintro ⟨other, value⟩ member
              have different : other ≠ found := by
                rintro rfl
                exact fresh (List.mem_map.mpr ⟨(other, value), member, rfl⟩)
              simpa using different
            rw [absent] at further
            simpa [lookup, presentMembers] using further
      · cases content with
        | some value => simpa [lookup, presentMembers, same] using further
        | none => simpa [lookup, presentMembers, same] using further

theorem required?_present (distinct : (members.map Prod.fst).Nodup) (name : String) :
    Fields.required? ⟨presentMembers members⟩ name inner? =
      ((members.find? (·.1 == name)).bind (·.2)).bind inner? := by
  rw [Fields.required?, lookup_present distinct]

theorem withDefault?_present (distinct : (members.map Prod.fst).Nodup) (name : String)
    (default : α) : Fields.withDefault? ⟨presentMembers members⟩ name default inner? =
      ((members.find? (·.1 == name)).bind (·.2)).elim (some default) inner? := by
  rw [Fields.withDefault?, lookup_present distinct]
  split <;> next found => rw [found]; rfl

theorem optional?_present (distinct : (members.map Prod.fst).Nodup) (name : String) :
    Fields.optional? ⟨presentMembers members⟩ name inner? =
      ((members.find? (·.1 == name)).bind (·.2)).elim (some none) (Value.nullable? inner?) :=
  withDefault?_present distinct name none

theorem nullable?_of_present {value : Value} (present : value ≠ .null) :
    Value.nullable? inner? value = (inner? value).map some := by
  cases value with
  | null => exact absurd rfl present
  | _ => rfl

theorem elim_nullable? (item : Option α)
    (inverse : ∀ content, inner? (write content) = some content)
    (present : ∀ content, write content ≠ .null) :
    (item.map write).elim (some none) (Value.nullable? inner?) = some item := by
  cases item with
  | none => rfl
  | some content => simp [nullable?_of_present (present content), inverse]

theorem text?_text (content : String) : (Value.text content).text? = some content :=
  rfl

@[simp]
theorem elim_text? (item : Option String) :
    item.elim (some none) (Value.nullable? Value.text? ∘ Value.text) = some item := by
  cases item <;> rfl

theorem list?_map (items : List α) (inverse : ∀ content, inner? (write content) = some content) :
    Value.list? inner? (.array (items.map write)) = some items := by
  unfold Value.list?
  induction items with
  | nil => rfl
  | cons item items induction => simp [inverse, induction]

theorem integer?_integer (value : Int) : (Value.integer value).integer? = some value := by
  unfold Value.integer
  split
  · next negative =>
    have magnitude : -(value.natAbs : Int) = value := by omega
    exact congrArg some magnitude
  · next natural =>
    have magnitude : (value.natAbs : Int) = value := by omega
    exact congrArg some magnitude

theorem integerIn?_integer {low high value : Int} (above : low ≤ value) (below : value ≤ high) :
    (Value.integer value).integerIn? low high = some value := by
  simp [Value.integerIn?, integer?_integer, above, below]

theorem signed64?_integer (value : Int64) : (Value.integer value.toInt).signed64? = some value := by
  rw [Value.signed64?, integerIn?_integer value.minValue_le_toInt value.toInt_le, Option.map_some,
    Int64.ofInt_toInt]

theorem signed32?_integer (value : Int32) : (Value.integer value.toInt).signed32? = some value := by
  rw [Value.signed32?, integerIn?_integer value.minValue_le_toInt value.toInt_le, Option.map_some,
    Int32.ofInt_toInt]

theorem unsigned32?_natural (value : UInt32) :
    (Value.natural value.toNat).unsigned32? = some value := by
  simp [Value.unsigned32?, Value.naturalBelow?, Value.natural, UInt32.toNat_lt_size]

/-- The integers of 64 bits are spelt so that they are read again. -/
theorem isSpelt_integer {value : Int} (above : Int64.minValue.toInt ≤ value)
    (below : value ≤ Int64.maxValue.toInt) : (Value.integer value).IsSpelt := by
  have least : Int64.minValue.toInt = -(Decimal.signedLimit : Int) := by decide
  have greatest : Int64.maxValue.toInt = (Decimal.signedLimit : Int) - 1 := by decide
  have limits : Decimal.signedLimit ≤ Decimal.unsignedLimit := by decide
  rw [least] at above
  rw [greatest] at below
  unfold Value.integer
  split
  · exact .number (isSpelt_negative (by omega) (by omega))
  · exact .number (isSpelt_natural (by omega))

theorem isSpelt_unsigned32 (value : UInt32) : (Value.natural value.toNat).IsSpelt := by
  have limits : UInt32.size ≤ Decimal.unsignedLimit := by decide
  exact .number (isSpelt_natural (Nat.lt_of_lt_of_le value.toNat_lt_size limits))

theorem isSpelt_signed32 (value : Int32) : (Value.integer value.toInt).IsSpelt := by
  have lower : Int64.minValue.toInt ≤ Int32.minValue.toInt := by decide
  have upper : Int32.maxValue.toInt ≤ Int64.maxValue.toInt := by decide
  exact isSpelt_integer (Int.le_trans lower value.minValue_le_toInt)
    (Int.le_trans value.toInt_le upper)

attribute [simp] Value.IsSpelt.null Value.IsSpelt.boolean Value.IsSpelt.text isSpelt_unsigned32
  isSpelt_signed32

theorem isSpelt_object {members : List (String × Value)} :
    (Value.object members).IsSpelt ↔ ∀ member ∈ members, member.2.IsSpelt :=
  ⟨fun | .object spelt => spelt, .object⟩

theorem isSpelt_present (spelt : ∀ member ∈ members, ∀ value ∈ member.2, value.IsSpelt) :
    (Value.object (presentMembers members)).IsSpelt := by
  apply Value.IsSpelt.object
  intro member written
  obtain ⟨source, inside, made⟩ := List.mem_filterMap.mp written
  obtain ⟨value, held, rfl⟩ := Option.map_eq_some_iff.mp made
  exact spelt source inside value held

theorem isSpelt_map (items : List α) (spelt : ∀ content, (write content).IsSpelt) :
    (Value.array (items.map write)).IsSpelt := by
  apply Value.IsSpelt.array
  intro item member
  obtain ⟨content, -, rfl⟩ := List.mem_map.mp member
  exact spelt content

end FacetedQuery.Json
