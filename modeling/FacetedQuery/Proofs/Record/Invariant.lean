import FacetedQuery.Proofs.Record.Arrival

/-!
# Records whose values are apart

In a proper record no two properties have the same name, and no two values of a property are equal
or have the same id.  Records that are built by pushing and merging are proper at every depth: a
record keeps its id when another one with this id is merged into it, so that it stays apart from
the other values of its property.  The document of a proper record repeats no key.
-/

namespace FacetedQuery

open Keyed

/-- Names, values and ids are told apart, in the record and in all that is nested in it. -/
inductive Record.Proper : Record → Prop
  | of {properties : List Property}
      (names : (properties.map Property.name).Nodup)
      (values : ∀ property ∈ properties, property.values.Nodup)
      (ids : ∀ property ∈ properties, (property.values.filterMap RecordValue.id?).Nodup)
      (nested : ∀ property ∈ properties, ∀ content, .record content ∈ property.values →
        content.Proper) :
      Record.Proper (.of properties)

/-- Records that come about by pushing and merging. -/
inductive Record.Built : Record → Prop
  | empty : Built .empty
  | withId (id : String) : Built (.withId id)
  | pushTerm {record : Record} (name text : String) (built : record.Built) :
      Built (record.push name (.term text))
  | pushRecord {record content : Record} (name : String) (built : record.Built)
      (contentBuilt : content.Built) : Built (record.push name (.record content))
  | merge {record other : Record} (built : record.Built) (otherBuilt : other.Built) :
      Built (record.merge other)

/-- A value is proper if it is a term or a proper record. -/
def RecordValue.Proper (value : RecordValue) : Prop :=
  ∀ content, value = .record content → content.Proper

/-- Values of one property that are told apart and proper. -/
structure ProperValues (values : List RecordValue) : Prop where
  distinct : (values.map RecordValue.identity).Nodup
  proper : ∀ value ∈ values, value.Proper

/-- Values have distinct identities if they are distinct and have distinct ids. -/
theorem nodup_identities {values : List RecordValue} :
    (values.map RecordValue.identity).Nodup ↔
      values.Nodup ∧ (values.filterMap RecordValue.id?).Nodup := by
  rw [List.Nodup, List.Nodup, List.Nodup, List.pairwise_map, List.pairwise_filterMap,
    ← List.pairwise_and_iff]
  refine List.Pairwise.iff fun value other => ?_
  rw [Ne, RecordValue.identity_eq_iff, not_or]
  refine and_congr_right fun _ => ⟨?_, ?_⟩
  · rintro apart id known another otherKnown rfl
    exact apart ⟨id, known, otherKnown⟩
  · rintro apart ⟨id, known, otherKnown⟩
    exact apart id known id otherKnown rfl

namespace Record

variable {record other : Record} {name id : String} {value : RecordValue}

theorem Proper.names (proper : record.Proper) : (record.properties.map Property.name).Nodup := by
  cases proper
  assumption

theorem Proper.values (proper : record.Proper) {property : Property}
    (found : property ∈ record.properties) : ProperValues property.values := by
  cases proper with
  | of names values ids nested =>
      refine ⟨nodup_identities.mpr ⟨values property found, ids property found⟩, ?_⟩
      rintro value inside content rfl
      exact nested property found content inside

theorem Proper.ofParts {properties : List Property}
    (names : (properties.map Property.name).Nodup)
    (values : ∀ property ∈ properties, ProperValues property.values) :
    Proper (.of properties) := by
  refine .of names (fun property found => ?_) (fun property found => ?_) ?_
  · exact (nodup_identities.mp (values property found).distinct).1
  · exact (nodup_identities.mp (values property found).distinct).2
  · intro property found content inside
    exact (values property found).proper _ inside content rfl

theorem proper_empty : empty.Proper :=
  .ofParts (by simp) (by simp)

/-- The id of a proper record is all that it holds as its id. -/
theorem Proper.id_entry (proper : other.Proper) (known : other.id? = some id)
    (entry : ("id", value) ∈ other.entries) : value = .term id := by
  obtain ⟨property, found, isId, inside⟩ := mem_entries.mp entry
  have first : other.get? "id" = some property := by
    have search := find?_key_eq_some proper.names found
    rw [isId] at search
    exact search
  rw [id?_eq_some.mp known, Option.some_inj] at first
  subst first
  simpa [Property.values] using inside

theorem id?_merge (proper : other.Proper) (known : record.id? = some id)
    (otherKnown : other.id? = some id) : (record.merge other).id? = some id := by
  rw [merge_eq]
  exact id?_pushEntries known fun value entry => proper.id_entry otherKnown entry

theorem keeps_identities {values others : List RecordValue}
    (proper : ∀ value ∈ others, value.Proper) :
    Keeps RecordValue.identity RecordValue.join values others := by
  intro value _ incoming found same
  obtain ⟨-, -, kept⟩ | ⟨id, content, newcomer, rfl, rfl, known, newKnown, result⟩ :=
    RecordValue.join_cases same
  · rw [kept]
  · have kept := id?_merge (proper _ found newcomer rfl) known newKnown
    rw [result, RecordValue.identity_record kept, RecordValue.identity_record known]

/-- Merging one record into any proper one gives a proper one. -/
def Mergeable (content : Record) : Prop :=
  content.Proper ∧ ∀ record : Record, record.Proper → (record.merge content).Proper

theorem properValues_put {values : List RecordValue} (proper : ProperValues values)
    (mergeable : ∀ content, value = .record content → content.Mergeable) :
    ProperValues (put RecordValue.identity RecordValue.join value values) := by
  have valueProper : value.Proper := fun content isRecord => (mergeable content isRecord).1
  have keeps : Keeps RecordValue.identity RecordValue.join values [value] :=
    keeps_identities (by simpa using valueProper)
  refine ⟨nodup_put keeps proper.distinct, fun result found => ?_⟩
  rcases of_mem_put found with old | rfl | ⟨former, old, same, rfl⟩
  · exact proper.proper result old
  · exact valueProper
  · obtain ⟨-, -, kept⟩ | ⟨id, content, incoming, rfl, rfl, -, -, merged⟩ :=
      RecordValue.join_cases same
    · rw [kept]
      exact proper.proper former old
    · rw [merged]
      rintro result equal
      cases equal
      exact (mergeable incoming rfl).2 content (proper.proper _ old content rfl)

theorem Proper.pushMergeable (proper : record.Proper)
    (mergeable : ∀ content, value = .record content → content.Mergeable) :
    (record.push name value).Proper := by
  have single : ProperValues (put RecordValue.identity RecordValue.join value []) :=
    properValues_put ⟨List.nodup_nil, nofun⟩ mergeable
  rw [push_eq]
  refine .ofParts (nodup_put keeps_names proper.names) ?_
  refine forall_mem_put (fun _ old => proper.values old) single fun former old _ => ?_
  rw [Property.values_join]
  exact properValues_put (proper.values old) mergeable

theorem Proper.pushEntries {entries : List (String × RecordValue)} (proper : record.Proper)
    (mergeable : ∀ name content, (name, .record content) ∈ entries → content.Mergeable) :
    (record.pushEntries entries).Proper := by
  induction entries generalizing record with
  | nil => exact proper
  | cons entry rest induction =>
      obtain ⟨name, value⟩ := entry
      refine induction (proper.pushMergeable ?_) fun name content later =>
        mergeable name content (List.mem_cons_of_mem _ later)
      rintro content rfl
      exact mergeable name content List.mem_cons_self

/-- Induction on the record that is merged: the records nested in it come to be merged into
others. -/
theorem Proper.mergeable (proper : other.Proper) : other.Mergeable := by
  induction proper with
  | @of properties names values ids nested induction =>
      refine ⟨.of names values ids nested, fun record recordProper => ?_⟩
      rw [merge_eq]
      refine recordProper.pushEntries fun name content entry => ?_
      obtain ⟨property, found, -, inside⟩ := mem_entries.mp entry
      exact induction property found content inside

theorem Proper.merge (proper : record.Proper) (otherProper : other.Proper) :
    (record.merge other).Proper :=
  otherProper.mergeable.2 record proper

theorem Proper.push (proper : record.Proper) (valueProper : value.Proper) :
    (record.push name value).Proper :=
  proper.pushMergeable fun content isRecord => (valueProper content isRecord).mergeable

theorem Built.proper (built : record.Built) : record.Proper := by
  induction built with
  | empty => exact proper_empty
  | withId id => exact proper_empty.push nofun
  | pushTerm name text built proper => exact proper.push nofun
  | @pushRecord record content name built contentBuilt proper contentProper =>
      exact proper.push fun content isRecord => by cases isRecord; exact contentProper
  | merge built otherBuilt proper otherProper => exact proper.merge otherProper

end Record

/-- No object repeats a key, and no array holds fewer than two items. -/
inductive Json.Value.Tidy : Json.Value → Prop
  | text (content : String) : Tidy (.text content)
  | array {items : List Json.Value} (several : 2 ≤ items.length)
      (inside : ∀ item ∈ items, item.Tidy) : Tidy (.array items)
  | object {members : List (String × Json.Value)} (keys : (members.map Prod.fst).Nodup)
      (inside : ∀ member ∈ members, member.2.Tidy) : Tidy (.object members)

theorem jsonOfValues_eq (values : List RecordValue) :
    jsonOfValues values = values.map RecordValue.toJson := by
  induction values with
  | nil => rfl
  | cons value rest induction => rw [jsonOfValues, induction, List.map_cons]

theorem jsonOfProperties_eq (properties : List Property) :
    jsonOfProperties properties =
      properties.map fun property => (property.name, property.toJson) := by
  induction properties with
  | nil => rfl
  | cons property rest induction =>
      cases property
      rw [jsonOfProperties, induction, List.map_cons, Property.name]

theorem Property.tidy_toJson {property : Property}
    (tidy : ∀ value ∈ property.values, value.toJson.Tidy) : property.toJson.Tidy := by
  obtain ⟨name, first, _ | ⟨second, others⟩⟩ := property
  · exact tidy first (by simp [values])
  · rw [toJson, jsonOfValues_eq]
    refine .array (by simp) fun item found => ?_
    obtain ⟨value, inside, rfl⟩ : ∃ value ∈ first :: second :: others, value.toJson = item := by
      simpa [or_assoc, eq_comm] using found
    exact tidy value inside

theorem Record.Proper.tidy_toJson {record : Record} (proper : record.Proper) :
    record.toJson.Tidy := by
  induction proper with
  | @of properties names values ids nested induction =>
      rw [Record.toJson, jsonOfProperties_eq]
      refine .object (by rwa [List.map_map]) fun member found => ?_
      obtain ⟨property, inside, rfl⟩ := List.mem_map.mp found
      refine Property.tidy_toJson fun value held => ?_
      cases value with
      | term text => exact .text text
      | record content => exact induction property inside content held

end FacetedQuery
