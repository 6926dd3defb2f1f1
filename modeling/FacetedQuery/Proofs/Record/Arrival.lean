import FacetedQuery.Proofs.Record.Keyed
import FacetedQuery.Record

/-!
# Values that arrive

The values of a property are a keyed list, and so are the properties of a record.  A record with an
id is told apart by it, any other value by itself; a property is told apart by its name.  To push a
value is to put it into these lists, and to merge a record is to push its values one by one.
-/

namespace FacetedQuery

open Keyed

/-- What holds of a record if it holds of the records nested in it holds of every record. -/
@[elab_as_elim]
theorem Record.induction {motive : Record → Prop}
    (step : ∀ record : Record, (∀ property ∈ record.properties, ∀ content,
      .record content ∈ property.values → motive content) → motive record) :
    (record : Record) → motive record
  | .of properties => step _ fun property _ content _ => Record.induction step content
termination_by record => sizeOf record
decreasing_by
  next found inside =>
  have outer := List.sizeOf_lt_of_mem found
  have inner := List.sizeOf_lt_of_mem inside
  cases property
  simp only [Property.values, Record.properties, List.cons.sizeOf_spec,
    RecordValue.record.sizeOf_spec, Property.of.sizeOf_spec, Record.of.sizeOf_spec] at outer inner ⊢
  omega

/-- The id of a value, if it is a record that has one. -/
def RecordValue.id? : RecordValue → Option String
  | .term _ => none
  | .record content => content.id?

/-- What tells the values of a property apart. -/
inductive Identity where
  | entity (id : String)
  | itself (value : RecordValue)
deriving DecidableEq

namespace RecordValue

def identity (value : RecordValue) : Identity :=
  match value.id? with
  | some id => .entity id
  | none => .itself value

/-- A value after one with the same identity arrived. -/
def join : RecordValue → RecordValue → RecordValue
  | .record content, .record other =>
    if content.id?.isSome then .record (content.merge other) else .record content
  | value, _ => value

variable {value other : RecordValue}

theorem identity_of_id {id : String} (known : value.id? = some id) :
    value.identity = .entity id := by
  rw [identity, known]

theorem identity_record {content : Record} {id : String} (known : content.id? = some id) :
    (RecordValue.record content).identity = .entity id :=
  identity_of_id known

theorem identity_of_noId (unknown : value.id? = none) : value.identity = .itself value := by
  rw [identity, unknown]

/-- Values with the same identity have the same id or are equal. -/
theorem identity_eq_iff : value.identity = other.identity ↔
    value = other ∨ ∃ id, value.id? = some id ∧ other.id? = some id := by
  cases left : value.id? with
  | none =>
      rw [identity_of_noId left]
      cases right : other.id? with
      | none => simp [identity_of_noId right]
      | some id =>
          rw [identity_of_id right]
          simp only [reduceCtorEq, false_and, exists_false, or_false, false_iff]
          rintro rfl
          rw [left] at right
          cases right
  | some id =>
      rw [identity_of_id left]
      cases right : other.id? with
      | none =>
          rw [identity_of_noId right]
          simp only [reduceCtorEq, and_false, exists_false, or_false, false_iff]
          rintro rfl
          rw [left] at right
          cases right
      | some another =>
          rw [identity_of_id right]
          simp only [Identity.entity.injEq, Option.some.injEq]
          constructor
          · rintro rfl
            exact .inr ⟨id, rfl, rfl⟩
          · rintro (rfl | ⟨found, rfl, rfl⟩)
            · rw [left] at right
              exact Option.some_inj.mp right
            · rfl

theorem exists_record {id : String} (known : value.id? = some id) :
    ∃ content, value = .record content ∧ content.id? = some id := by
  cases value with
  | term text => cases known
  | record content => exact ⟨content, rfl, known⟩

/-- Values with the same identity are equal and one stays as it is, or they are records with an id
and one is merged into the other. -/
theorem join_cases (same : value.identity = other.identity) :
    (value.id? = none ∧ value = other ∧ value.join other = value) ∨
    ∃ id content incoming, value = .record content ∧ other = .record incoming ∧
      content.id? = some id ∧ incoming.id? = some id ∧
      value.join other = .record (content.merge incoming) := by
  cases unknown : value.id? with
  | none =>
      refine .inl ⟨rfl, ?_, ?_⟩
      · rcases identity_eq_iff.mp same with equal | ⟨id, known, -⟩
        · exact equal
        · rw [unknown] at known
          cases known
      · cases value with
        | term text => cases other <;> rfl
        | record content =>
            cases other with
            | term text => rfl
            | record incoming =>
                have noId : content.id? = none := unknown
                simp [join, noId]
  | some id =>
      obtain ⟨content, rfl, known⟩ := exists_record unknown
      have otherKnown : other.id? = some id := by
        rcases identity_eq_iff.mp same with rfl | ⟨found, left, right⟩
        · exact unknown
        · rw [unknown] at left
          rw [right, left]
      obtain ⟨incoming, rfl, incomingKnown⟩ := exists_record otherKnown
      exact .inr ⟨id, content, incoming, rfl, rfl, known, incomingKnown, by simp [join, known]⟩

end RecordValue

/-- The values of a property after further ones arrived. -/
def gather (values incoming : List RecordValue) : List RecordValue :=
  incoming.foldl (fun values value => put RecordValue.identity RecordValue.join value values) values

/-- A property after the values of another one arrived. -/
def Property.join : Property → Property → Property
  | .of name first others, incoming =>
    Record.withValues name first (gather (first :: others) incoming.values)

namespace Property

variable {property incoming : Property}

theorem ext {left right : Property} (name : left.name = right.name)
    (values : left.values = right.values) : left = right := by
  cases left
  cases right
  simp_all [Property.name, Property.values]

theorem name_withValues (name : String) (first : RecordValue) (values : List RecordValue) :
    (Record.withValues name first values).name = name := by
  cases values <;> rfl

theorem values_withValues {name : String} {first : RecordValue} {values : List RecordValue}
    (present : values ≠ []) : (Record.withValues name first values).values = values := by
  cases values with
  | nil => exact absurd rfl present
  | cons head tail => rfl

@[simp] theorem name_join : (property.join incoming).name = property.name := by
  cases property
  exact name_withValues _ _ _

end Property

theorem put_ne_nil {value : RecordValue} {values : List RecordValue} :
    put RecordValue.identity RecordValue.join value values ≠ [] := by
  cases values with
  | nil => simp [put]
  | cons first rest =>
      rw [put]
      split <;> simp

theorem gather_ne_nil {values incoming : List RecordValue} (present : values ≠ []) :
    gather values incoming ≠ [] := by
  induction incoming generalizing values with
  | nil => exact present
  | cons value rest induction => exact induction put_ne_nil

theorem Property.values_join {property incoming : Property} :
    (property.join incoming).values = gather property.values incoming.values := by
  cases property
  exact values_withValues (gather_ne_nil (by simp))

namespace Record

variable {record other content : Record} {name id : String} {value : RecordValue}

theorem any_holdsId {values : List RecordValue} :
    values.any (holdsId id) = true ↔ ∃ value ∈ values, value.id? = some id := by
  rw [List.any_eq_true]
  refine exists_congr fun value => and_congr_right fun _ => ?_
  cases value with
  | term text => simp [holdsId, RecordValue.id?]
  | record content => simp [holdsId, RecordValue.id?]

/-- A value without an id is told apart by itself. -/
theorem put_of_noId {values : List RecordValue} (unknown : value.id? = none) :
    put RecordValue.identity RecordValue.join value values =
      if values.contains value then values else values ++ [value] := by
  obtain ⟨fresh, result⟩ | ⟨before, found, after, rfl, fresh, same, result⟩ :=
    put_cases RecordValue.identity RecordValue.join value values
  · have absent : value ∉ values := fun found => fresh (List.mem_map_of_mem found)
    rw [result, if_neg (by simpa using absent)]
  · obtain ⟨-, rfl, kept⟩ | ⟨id, content, incoming, -, rfl, -, known, -⟩ :=
      RecordValue.join_cases same
    · rw [result, kept, if_pos (by simp)]
    · cases unknown.symm.trans known

/-- A record with an id joins the first one that has it. -/
theorem put_of_id {values : List RecordValue} (known : content.id? = some id) :
    put RecordValue.identity RecordValue.join (.record content) values =
      if values.any (holdsId id) then joinFirst id (fun found => found.merge content) values
      else values ++ [.record content] := by
  have identity := RecordValue.identity_record known
  induction values with
  | nil => rfl
  | cons first rest induction =>
      cases first with
      | term text =>
          have different : (RecordValue.term text).identity ≠ .entity id := by
            simp [RecordValue.identity, RecordValue.id?]
          rw [put, identity, if_neg different, induction, List.any_cons]
          simp only [holdsId, Bool.false_or, joinFirst]
          split <;> rfl
      | record found =>
          by_cases same : found.id? = some id
          · have equal := RecordValue.identity_record same
            simp [put, identity, equal, holdsId, same, joinFirst, RecordValue.join]
          · have different : (RecordValue.record found).identity ≠ .entity id := by
              cases unknown : found.id? with
              | none => simp [RecordValue.identity, RecordValue.id?, unknown]
              | some another =>
                  rw [unknown, Option.some_inj] at same
                  simpa [RecordValue.identity, RecordValue.id?, unknown] using same
            rw [put, identity, if_neg different, induction, List.any_cons]
            simp only [holdsId, joinFirst, same, beq_iff_eq, if_false, Bool.or_eq_true, false_or]
            split <;> rfl

/-- What a record does that a value which arrives joins. -/
def joinOf : RecordValue → Record → Record
  | .term _, found => found
  | .record content, found => found.merge content

theorem arrive_eq_put {values : List RecordValue} :
    arrive value (joinOf value) values =
      put RecordValue.identity RecordValue.join value values := by
  cases value with
  | term text => rw [put_of_noId rfl]; rfl
  | record content =>
      cases known : content.id? with
      | none =>
          rw [put_of_noId (show RecordValue.id? (.record content) = none from known)]
          simp [arrive, known]
      | some id =>
          rw [put_of_id known]
          simp only [arrive, known]
          split
          · rfl
          · next absent =>
              rw [any_holdsId] at absent
              rw [if_neg]
              intro present
              exact absent ⟨.record content, by simpa using present, known⟩

theorem place_eq_put {properties : List Property} :
    place name value (joinOf value) properties =
      put Property.name Property.join (.of name value []) properties := by
  induction properties with
  | nil => rfl
  | cons property rest induction =>
      cases property with
      | of found first others =>
          by_cases same : found = name
          · simp [place, put, Property.name, same, Property.join, gather,
              Property.values, arrive_eq_put]
          · simp [place, put, Property.name, same, induction]

theorem push_eq : record.push name value =
    .of (put Property.name Property.join (.of name value []) record.properties) := by
  rw [← place_eq_put]
  cases value <;> rfl

theorem properties_push : (record.push name value).properties =
    put Property.name Property.join (.of name value []) record.properties := by
  rw [push_eq]
  rfl

/-- The values of a record with the names of their properties. -/
def entries (record : Record) : List (String × RecordValue) :=
  record.properties.flatMap fun property => property.values.map (property.name, ·)

theorem mem_entries : (name, value) ∈ record.entries ↔
    ∃ property ∈ record.properties, property.name = name ∧ value ∈ property.values := by
  simp only [entries, List.mem_flatMap, List.mem_map, Prod.mk.injEq]
  constructor
  · rintro ⟨property, found, value, inside, rfl, rfl⟩
    exact ⟨property, found, rfl, inside⟩
  · rintro ⟨property, found, rfl, inside⟩
    exact ⟨property, found, value, inside, rfl, rfl⟩

/-- Pushes values one by one. -/
def pushEntries (record : Record) (entries : List (String × RecordValue)) : Record :=
  entries.foldl (fun record entry => record.push entry.1 entry.2) record

theorem pushAll_eq {values : List RecordValue} :
    record.pushAll name values = record.pushEntries (values.map (name, ·)) := by
  induction values generalizing record with
  | nil => rfl
  | cons value rest induction => exact induction

theorem mergeProperty_eq {property : Property} : record.mergeProperty property =
    record.pushEntries (property.values.map (property.name, ·)) := by
  cases property
  exact pushAll_eq

theorem mergeProperties_eq {properties : List Property} : record.mergeProperties properties =
    record.pushEntries
      (properties.flatMap fun property => property.values.map (property.name, ·)) := by
  induction properties generalizing record with
  | nil => rfl
  | cons property rest induction =>
      rw [mergeProperties, induction, mergeProperty_eq, List.flatMap_cons, pushEntries, pushEntries,
        pushEntries, List.foldl_append]

theorem merge_eq : record.merge other = record.pushEntries other.entries := by
  cases other
  exact mergeProperties_eq

theorem keeps_names {properties others : List Property} :
    Keeps Property.name Property.join properties others :=
  fun _ _ _ _ _ => Property.name_join

theorem get?_push_of_ne {wanted : String} (different : name ≠ wanted) :
    (record.push name value).get? wanted = record.get? wanted := by
  have search : (put Property.name Property.join (.of name value []) record.properties).find?
      (Property.name · = wanted) = record.properties.find? (Property.name · = wanted) :=
    find?_put_of_ne keeps_names different
  rw [get?, properties_push]
  exact search

theorem get?_push_self : (record.push name value).get? name =
    some (((record.get? name).map (Property.join · (.of name value []))).getD
      (.of name value [])) := by
  have search : (put Property.name Property.join (.of name value []) record.properties).find?
      (Property.name · = name) =
        some (((record.properties.find? (Property.name · = name)).map
          (Property.join · (.of name value []))).getD (.of name value [])) :=
    find?_put_self keeps_names rfl
  rw [get?, properties_push]
  exact search

theorem name_of_get? {property : Property} (found : record.get? name = some property) :
    property.name = name := by
  simpa using List.find?_some found

theorem id?_eq_some : record.id? = some id ↔ record.get? "id" = some (.of "id" (.term id) []) := by
  constructor
  · intro known
    rw [id?] at known
    split at known
    · next found text search =>
        have name : found = "id" := name_of_get? search
        rw [search, name, Option.some_inj.mp known]
    · cases known
  · intro search
    rw [id?, search]

theorem id?_push_of_ne (different : name ≠ "id") : (record.push name value).id? = record.id? := by
  rw [id?, get?_push_of_ne different, id?]

theorem id?_push_self (known : record.id? = some id) :
    (record.push "id" (.term id)).id? = some id := by
  rw [id?_eq_some] at known ⊢
  have unchanged : Property.join (.of "id" (.term id) []) (.of "id" (.term id) []) =
      .of "id" (.term id) [] := by
    simp [Property.join, Property.values, gather, put, RecordValue.join, withValues]
  rw [get?_push_self, known, Option.map_some, unchanged]
  rfl

/-- A record keeps its id when values are pushed of which none is another id. -/
theorem id?_pushEntries {entries : List (String × RecordValue)} (known : record.id? = some id)
    (same : ∀ value, ("id", value) ∈ entries → value = .term id) :
    (record.pushEntries entries).id? = some id := by
  induction entries generalizing record with
  | nil => exact known
  | cons entry rest induction =>
      obtain ⟨name, value⟩ := entry
      refine induction ?_ fun value later => same value (List.mem_cons_of_mem _ later)
      by_cases isId : name = "id"
      · subst isId
        rw [same value List.mem_cons_self]
        exact id?_push_self known
      · exact (id?_push_of_ne isId).trans known

end Record

end FacetedQuery
