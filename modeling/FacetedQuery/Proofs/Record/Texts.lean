import FacetedQuery.Proofs.Record.Arrival

/-!
# The texts of a record

A record holds texts at paths of names.  To push a value adds what the value holds, below the name,
and to merge a record adds what that record holds: nothing is lost, and nothing else appears.
-/

namespace FacetedQuery

open Keyed

/-- A record holds a text at a path: the names lead through nested records to the text. -/
inductive Record.Holds : Record → List String → String → Prop
  | term {record : Record} {property : Property} {text : String}
      (found : property ∈ record.properties) (inside : .term text ∈ property.values) :
      Record.Holds record [property.name] text
  | nested {record content : Record} {property : Property} {path : List String} {text : String}
      (found : property ∈ record.properties) (inside : .record content ∈ property.values)
      (deeper : content.Holds path text) : Record.Holds record (property.name :: path) text

/-- A term holds its text where the path ends, and a record what it holds further on. -/
def RecordValue.Holds (value : RecordValue) (path : List String) (text : String) : Prop :=
  match value with
  | .term found => path = [] ∧ found = text
  | .record content => content.Holds path text

/-- What a value holds, seen from the record whose property it is. -/
def RecordValue.HoldsBelow (value : RecordValue) (name : String) (path : List String)
    (text : String) : Prop :=
  ∃ further, path = name :: further ∧ value.Holds further text

def Property.Holds (property : Property) (path : List String) (text : String) : Prop :=
  ∃ value ∈ property.values, value.HoldsBelow property.name path text

variable {path : List String} {text : String}

namespace Record

variable {record other : Record} {name : String} {value : RecordValue}

theorem holds_iff :
    record.Holds path text ↔ ∃ property ∈ record.properties, property.Holds path text := by
  constructor
  · intro holds
    cases holds with
    | @term record property text found inside =>
        exact ⟨property, found, .term text, inside, [], rfl, rfl, rfl⟩
    | @nested record content property path text found inside deeper =>
        exact ⟨property, found, .record content, inside, path, rfl, deeper⟩
  · rintro ⟨property, found, value, inside, further, rfl, holds⟩
    cases value with
    | term found =>
        obtain ⟨rfl, rfl⟩ := holds
        exact .term ‹_› inside
    | record content => exact .nested found inside holds

theorem holds_iff_entries : record.Holds path text ↔
    ∃ entry ∈ record.entries, entry.2.HoldsBelow entry.1 path text := by
  rw [holds_iff]
  constructor
  · rintro ⟨property, found, value, inside, holds⟩
    exact ⟨(property.name, value), mem_entries.mpr ⟨property, found, rfl, inside⟩, holds⟩
  · rintro ⟨⟨name, value⟩, entry, holds⟩
    obtain ⟨property, found, rfl, inside⟩ := mem_entries.mp entry
    exact ⟨property, found, value, inside, holds⟩

/-- Merging a record into another one adds exactly what it holds. -/
def Adds (content : Record) : Prop :=
  ∀ (record : Record) (path : List String) (text : String),
    (record.merge content).Holds path text ↔ record.Holds path text ∨ content.Holds path text

theorem holds_join {former : RecordValue} (same : former.identity = value.identity)
    (adds : ∀ content, value = .record content → content.Adds) :
    (former.join value).Holds path text ↔ former.Holds path text ∨ value.Holds path text := by
  obtain ⟨-, rfl, kept⟩ | ⟨id, content, incoming, rfl, rfl, -, -, merged⟩ :=
    RecordValue.join_cases same
  · rw [kept, or_self]
  · rw [merged]
    exact adds incoming rfl content path text

theorem holds_joinProperty {property : Property} (same : property.name = name)
    (adds : ∀ content, value = .record content → content.Adds) :
    (property.join (.of name value [])).Holds path text ↔
      property.Holds path text ∨ value.HoldsBelow name path text := by
  rw [Property.Holds, Property.values_join, Property.name_join, same, Property.Holds, same]
  refine exists_mem_put fun former _ equal => ?_
  simp only [RecordValue.HoldsBelow, holds_join equal adds, and_or_left, exists_or]

theorem holds_pushAdding (adds : ∀ content, value = .record content → content.Adds) :
    (record.push name value).Holds path text ↔
      record.Holds path text ∨ value.HoldsBelow name path text := by
  have single : Property.Holds (.of name value []) path text ↔ value.HoldsBelow name path text := by
    simp [Property.Holds, Property.values, Property.name]
  rw [holds_iff, holds_iff, properties_push, ← single]
  refine exists_mem_put fun property _ same => ?_
  rw [single]
  exact holds_joinProperty same adds

theorem holds_pushEntries {entries : List (String × RecordValue)}
    (adds : ∀ name content, (name, .record content) ∈ entries → content.Adds) :
    (record.pushEntries entries).Holds path text ↔
      record.Holds path text ∨ ∃ entry ∈ entries, entry.2.HoldsBelow entry.1 path text := by
  induction entries generalizing record with
  | nil => simp [pushEntries]
  | cons entry rest induction =>
      obtain ⟨name, value⟩ := entry
      have here : ∀ content, value = .record content → content.Adds := by
        rintro content rfl
        exact adds name content List.mem_cons_self
      have step : ((record.push name value).pushEntries rest).Holds path text ↔ _ :=
        induction fun name content later => adds name content (List.mem_cons_of_mem _ later)
      rw [holds_pushAdding here] at step
      refine step.trans ?_
      simp [or_assoc]

/-- Induction on the record that is merged: the records nested in it come to be merged into
others. -/
theorem adds (content : Record) : content.Adds := by
  induction content using Record.induction with
  | step content induction =>
      intro record path text
      have contents : content.Holds path text ↔ _ := holds_iff_entries
      rw [merge_eq, contents]
      refine holds_pushEntries fun name nested entry => ?_
      obtain ⟨property, found, -, inside⟩ := mem_entries.mp entry
      exact induction property found nested inside

theorem holds_merge : (record.merge other).Holds path text ↔
    record.Holds path text ∨ other.Holds path text :=
  other.adds record path text

theorem holds_push : (record.push name value).Holds path text ↔
    record.Holds path text ∨ value.HoldsBelow name path text :=
  holds_pushAdding fun content _ => content.adds

theorem not_holds_empty : ¬ empty.Holds path text := by
  rw [holds_iff]
  rintro ⟨property, found, -⟩
  cases found

end Record

end FacetedQuery
