import FacetedQuery.Constraint.Document
import FacetedQuery.Proofs.Json.Fields
import Mathlib.Data.List.Induction

/-!
# Constraints are read back

The document of a set of constraints is read as this set, as soon as the numbers of its boxes are
read back from their own texts.  A bound that is a text stays one whatever it looks like, and the
names of kinds are looked for inside a constraint only, so a facet may bear such a name.
-/

namespace FacetedQuery

open Json

theorem TimeBound.ofJson?_toJson (bound : TimeBound) : ofJson? bound.toJson = some bound := by
  cases bound with
  | text content => rfl
  | year value =>
      have number : (Value.integer value.toInt).signed64?.map TimeBound.year =
        some (.year value) := by
        rw [signed64?_integer]
        rfl
      exact number

theorem TimeBound.isSpelt_toJson (bound : TimeBound) : bound.toJson.IsSpelt := by
  cases bound with
  | text content => exact .text content
  | year value => exact isSpelt_integer value.minValue_le_toInt value.toInt_le

namespace TimeRange

theorem nullable?_getD (bound : Option TimeBound) :
    Value.nullable? TimeBound.ofJson? ((bound.map TimeBound.toJson).getD .null) = some bound := by
  cases bound with
  | none => rfl
  | some bound =>
      have present : bound.toJson ≠ .null := by cases bound <;> nofun
      simp [nullable?_of_present present, TimeBound.ofJson?_toJson]

theorem ofJson?_toJson (range : TimeRange) : ofJson? range.toJson = some range := by
  simp [toJson, ofJson?, fields?_object, Fields.optional?, Fields.withDefault?, lookup,
    nullable?_getD]

theorem isSpelt_toJson (range : TimeRange) : range.toJson.IsSpelt := by
  have ends : ∀ bound : Option TimeBound, ((bound.map TimeBound.toJson).getD .null).IsSpelt := by
    intro bound
    cases bound with
    | none => exact .null
    | some bound => exact bound.isSpelt_toJson
  simp [toJson, isSpelt_object, ends]

end TimeRange

namespace GeoBox

/-- The numbers of a box are read back from their own texts. -/
structure IsKept (box : GeoBox) : Prop where
  latMin : Json.read? (Value.real box.latMin).write = some (.real box.latMin)
  longMin : Json.read? (Value.real box.longMin).write = some (.real box.longMin)
  latMax : Json.read? (Value.real box.latMax).write = some (.real box.latMax)
  longMax : Json.read? (Value.real box.longMax).write = some (.real box.longMax)

theorem isKept_iff {box : GeoBox} : box.IsKept ↔
    (Number.real box.latMin).IsSpelt ∧ (Number.real box.longMin).IsSpelt ∧
      (Number.real box.latMax).IsSpelt ∧ (Number.real box.longMax).IsSpelt := by
  simp only [Number.isSpelt_iff]
  exact ⟨fun ⟨south, west, north, east⟩ => ⟨south, west, north, east⟩,
    fun ⟨south, west, north, east⟩ => ⟨south, west, north, east⟩⟩

instance (box : GeoBox) : Decidable box.IsKept :=
  decidable_of_iff _ isKept_iff.symm

theorem ofJson?_toJson (box : GeoBox) : ofJson? box.toJson = some box := by
  simp [toJson, ofJson?, fields?_object, Fields.required?, lookup, Value.real, Value.float?]

theorem IsKept.isSpelt {box : GeoBox} (kept : box.IsKept) : box.toJson.IsSpelt := by
  obtain ⟨south, west, north, east⟩ := isKept_iff.mp kept
  simp [toJson, isSpelt_object, Value.real, Value.IsSpelt.number, south, west, north, east]

end GeoBox

namespace ConstraintValue

theorem ofJson?_toJson (value : ConstraintValue) :
    ofJson? value.kind value.toJson = some value := by
  cases value with
  | uris items =>
      have texts := list?_map items text?_text
      simp [kind, toJson, ofJson?, texts]
  | text content => rfl
  | timespan range => simp [kind, toJson, ofJson?, TimeRange.ofJson?_toJson]
  | box corners => simp [kind, toJson, ofJson?, GeoBox.ofJson?_toJson]

theorem isSpelt_toJson {value : ConstraintValue}
    (kept : ∀ corners, value = .box corners → corners.IsKept) : value.toJson.IsSpelt := by
  cases value with
  | uris items => exact isSpelt_map items Value.IsSpelt.text
  | text content => exact .text content
  | timespan range => exact range.isSpelt_toJson
  | box corners => exact (kept corners rfl).isSpelt

end ConstraintValue

theorem FilterKind.ofName?_name (kind : FilterKind) : ofName? kind.name = some kind := by
  cases kind <;> decide

theorem FilterKind.name_ne_subconceptsKey (kind : FilterKind) :
    kind.name ≠ Constraint.subconceptsKey := by
  cases kind <;> decide

namespace ConstraintValue

/-- Nothing in a value is hidden from its reader, and the value is flat enough. -/
theorem admissible_toJson (value : ConstraintValue) :
    value.toJson.isReadable = true ∧ value.toJson.depth ≤ Constraint.greatestDepth := by
  have ends : ∀ bound : Option TimeBound, ((bound.map TimeBound.toJson).getD .null).isReadable =
    true ∧ ((bound.map TimeBound.toJson).getD .null).depth = 0 := by
    rintro (_ | _ | _) <;> exact ⟨rfl, rfl⟩
  cases value with
  | uris items =>
      have texts : isReadableList (items.map Value.text) = true ∧
          depthList (items.map Value.text) = 0 := by
        induction items with
        | nil => exact ⟨rfl, rfl⟩
        | cons item items induction =>
            simp [isReadableList, depthList, Value.isReadable, Value.depth, induction]
      simp [toJson, Value.isReadable, Value.depth, texts, Constraint.greatestDepth]
  | text content => exact ⟨rfl, Nat.zero_le _⟩
  | timespan range =>
      simp [toJson, TimeRange.toJson, Value.isReadable, isReadableMembers, Value.depth,
        depthMembers, ends, Constraint.greatestDepth]
  | box corners =>
      simp [toJson, GeoBox.toJson, Value.real, Value.isReadable, isReadableMembers, Value.depth,
        depthMembers, Constraint.greatestDepth]

end ConstraintValue

namespace Constraint

theorem ofJson?_toJson (constraint : Constraint) : ofJson? constraint.toJson = some constraint := by
  obtain ⟨value, withSubconcepts⟩ := constraint
  have admissible : isAdmissible (value.kind.name, value.toJson) = true := by
    simp [isAdmissible, value.admissible_toJson]
  have different := value.kind.name_ne_subconceptsKey
  have flag : isAdmissible (subconceptsKey, .boolean true) = true := by
    simp [isAdmissible]
  have first : ∀ others, firstValue? ((value.kind.name, value.toJson) :: others) = some value := by
    intro others
    simp [firstValue?, FilterKind.ofName?_name, ConstraintValue.ofJson?_toJson]
  cases withSubconcepts with
  | false =>
      simp [toJson, kind, ofJson?, admissible, fields?_object, Fields.withDefault?, lookup,
        different, first]
  | true =>
      simp [toJson, kind, ofJson?, admissible, flag, fields?_object, Fields.withDefault?, lookup,
        different, first, Value.boolean?]

theorem isSpelt_toJson {constraint : Constraint}
    (kept : ∀ corners, constraint.value = .box corners → corners.IsKept) :
    constraint.toJson.IsSpelt := by
  have value := ConstraintValue.isSpelt_toJson kept
  cases flag : constraint.withSubconcepts <;> simp [toJson, isSpelt_object, value, flag]

end Constraint

namespace ConstraintSet

theorem place_last {facet : String} {constraint : Constraint}
    {entries : List (String × Constraint)} (behind : ∀ entry ∈ entries, entry.1 < facet) :
    place facet constraint entries = entries ++ [(facet, constraint)] := by
  induction entries with
  | nil => rfl
  | cons entry entries induction =>
      obtain ⟨here, further⟩ := List.forall_mem_cons.mp behind
      rw [place, if_pos here, induction further, List.cons_append]

theorem entries_insert (set : ConstraintSet) (facet : String) (constraint : Constraint) :
    (set.insert facet constraint).entries = place facet constraint set.entries :=
  rfl

theorem entries_ofList {entries : List (String × Constraint)}
    (ordered : entries.Pairwise fun left right => left.1 < right.1) :
    (ofList entries).entries = entries := by
  induction entries using List.reverseRecOn with
  | nil => rfl
  | append_singleton entries last induction =>
      obtain ⟨front, -, behind⟩ := List.pairwise_append.mp ordered
      have earlier := induction front
      unfold ofList at earlier ⊢
      rw [List.foldl_concat, entries_insert, earlier]
      exact place_last fun entry member => behind entry member last List.mem_cons_self

theorem ofList_entries (set : ConstraintSet) : ofList set.entries = set := by
  have same := entries_ofList set.ordered
  cases made : ofList set.entries with
  | mk entries ordered =>
      rw [made] at same
      cases set
      cases same
      rfl

theorem ofJson?_toJson (set : ConstraintSet) : ofJson? set.toJson = some set := by
  have entries : (set.entries.map fun entry => (entry.1, entry.2.toJson)).mapM (fun member =>
      (Constraint.ofJson? member.2).map (member.1, ·)) = some set.entries := by
    induction set.entries with
    | nil => rfl
    | cons entry entries induction => simp [Constraint.ofJson?_toJson, induction]
  simp [toJson, ofJson?, entries, ofList_entries]

theorem isSpelt_toJson {set : ConstraintSet} (kept : ∀ entry ∈ set.entries, ∀ corners,
    entry.2.value = .box corners → corners.IsKept) : set.toJson.IsSpelt := by
  apply Value.IsSpelt.object
  intro member written
  obtain ⟨entry, inside, rfl⟩ := List.mem_map.mp written
  exact Constraint.isSpelt_toJson (kept entry inside)

/-- A set of constraints is read back from its document if the numbers of its boxes are. -/
theorem read?_compact (set : ConstraintSet) (kept : ∀ entry ∈ set.entries, ∀ corners,
    entry.2.value = .box corners → corners.IsKept) : read? set.toJson.compact = some set := by
  have text := read?_write (isSpelt_toJson kept)
  simp [read?, Value.compact, text, ofJson?_toJson]

/-- A constraint of each kind.  A bound looks like a number, and a facet is named like a kind. -/
def ofEachKind : ConstraintSet where
  entries := [
    ("area", ⟨.box ⟨-0.0, 2.25, 55.5, 0.0000001⟩, false⟩),
    ("place", ⟨.uris ["http://ldf.fi/mmm/place/1"], true⟩),
    ("prefLabel", ⟨.text "a \"gospel\"\n", false⟩),
    ("textFilter", ⟨.timespan ⟨some (.text "1600"), some (.year Int64.minValue)⟩, false⟩)]
  ordered := by decide

theorem read?_compact_ofEachKind :
    (∀ entry ∈ ofEachKind.entries, ∀ corners, entry.2.value = .box corners → corners.IsKept) ∧
      read? ofEachKind.toJson.compact = some ofEachKind := by
  have box : (⟨-0.0, 2.25, 55.5, 0.0000001⟩ : GeoBox).IsKept := by decide +kernel
  have kept : ∀ entry ∈ ofEachKind.entries, ∀ corners,
      entry.2.value = .box corners → corners.IsKept := by
    intro entry member corners same
    simp only [ofEachKind, List.mem_cons, List.not_mem_nil, or_false] at member
    rcases member with rfl | rfl | rfl | rfl <;> cases same
    exact box
  exact ⟨kept, read?_compact ofEachKind kept⟩

end ConstraintSet

end FacetedQuery
