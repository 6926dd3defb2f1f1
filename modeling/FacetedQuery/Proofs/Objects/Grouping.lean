import FacetedQuery.Proofs.Objects.Rows
import FacetedQuery.Proofs.Outcome
import FacetedQuery.Proofs.Record.Union
import Mathlib.Data.List.Permutation

/-!
# Objects of rows

Objects are a keyed list as well: the record of a row joins the object with its id.  The objects
have distinct ids, which are those of the rows in the order in which they appear first, and an
object holds exactly what the rows with its id give.  Objects are built by pushing and merging, so
that names, values and ids are apart in them at every depth.
-/

namespace FacetedQuery

open Keyed

/-- The objects that records with ids make. -/
def grouped (records : List Record) : List Record :=
  records.foldl (fun objects record => put Record.id? Record.merge record objects) []

/-- The names, values and ids in a record are apart, and it has an id. -/
def Record.Identified (record : Record) : Prop :=
  record.Proper ∧ ∃ id, record.id? = some id

theorem addObject_eq_put {record : Record} {id : String} {objects : List Record}
    (known : record.id? = some id) :
    addObject id record objects = put Record.id? Record.merge record objects := by
  induction objects with
  | nil => rfl
  | cons object rest induction =>
      rw [addObject, put, known, induction]
      simp only [beq_iff_eq]

theorem takeRow_eq_ok {skipped : List String} {objects result : List Record}
    {row : Solution × Nat} :
    takeRow skipped objects row = .ok result ↔
      (∃ id, (rowRecord skipped row.1).id? = some id) ∧
        result = put Record.id? Record.merge (rowRecord skipped row.1) objects := by
  rw [takeRow]
  cases known : (rowRecord skipped row.1).id? with
  | none => simp
  | some id => simp [addObject_eq_put known, eq_comm]

/-- Objects are read exactly if every row has an id. -/
theorem readObjects_eq_ok {rows : List Solution} {objects : List Record} :
    readObjects rows = .ok objects ↔
      (∀ row ∈ rows, ∃ id, (rowRecord [] row).id? = some id) ∧
        objects = grouped (rows.map (rowRecord [])) := by
  have run : ∀ (start : List Record) (index : Nat),
      (rows.zipIdx index).foldlM (takeRow []) start = .ok objects ↔
        (∀ row ∈ rows, ∃ id, (rowRecord [] row).id? = some id) ∧
          objects = (rows.map (rowRecord [])).foldl
            (fun objects record => put Record.id? Record.merge record objects) start := by
    induction rows with
    | nil => simp [pure, Except.pure, eq_comm]
    | cons row rest induction =>
        intro start index
        rw [List.zipIdx_cons, List.foldlM_cons, Outcome.bind_eq_ok]
        simp only [takeRow_eq_ok, induction]
        constructor
        · rintro ⟨_, ⟨known, rfl⟩, further, rfl⟩
          exact ⟨by simpa using ⟨known, further⟩, rfl⟩
        · rintro ⟨known, rfl⟩
          rw [List.forall_mem_cons] at known
          exact ⟨_, ⟨known.1, rfl⟩, known.2, rfl⟩
  exact run [] 0

theorem objectsWithout_eq (skipped : List String) (rows : List Solution) :
    objectsWithout skipped rows = readObjects (rows.map (·.without skipped)) := by
  have take : ∀ (objects : List Record) (row : Solution × Nat), takeRow skipped objects row =
      takeRow [] objects (row.1.without skipped, row.2) := fun objects row => by
    rw [takeRow, takeRow, rowRecord_eq skipped]
  rw [readObjects, objectsWithout, objectsWithout, List.zipIdx_map, List.foldlM_map]
  exact congrArg (fun step => rows.zipIdx.foldlM step []) (funext₂ take)

theorem keeps_ids {objects records : List Record}
    (identified : ∀ record ∈ records, record.Identified) :
    Keeps Record.id? Record.merge objects records := by
  intro object _ record found same
  obtain ⟨proper, id, known⟩ := identified record found
  rw [Record.id?_merge proper (same.trans known) known, same, known]

theorem grouped_append (records : List Record) (last : Record) :
    grouped (records ++ [last]) = put Record.id? Record.merge last (grouped records) := by
  simp [grouped]

theorem Record.Identified.merge {object record : Record} (identified : object.Identified)
    (other : record.Identified) (same : object.id? = record.id?) :
    (object.merge record).Identified := by
  obtain ⟨id, known⟩ := other.2
  exact ⟨identified.1.merge other.1, id, Record.id?_merge other.1 (same.trans known) known⟩

/-- What holds of records and is kept when they are merged holds of the objects they are grouped
into. -/
theorem forall_mem_grouped {property : Record → Prop} {records : List Record}
    (each : ∀ record ∈ records, property record)
    (merge : ∀ object record : Record, property object → property record →
      object.id? = record.id? → property (object.merge record)) :
    ∀ object ∈ grouped records, property object := by
  induction records using List.reverseRecOn with
  | nil => nofun
  | append_singleton records last induction =>
      have former := induction fun record found => each record (List.mem_append_left _ found)
      have arrived := each last (by simp)
      rw [grouped_append]
      exact forall_mem_put former arrived fun other found same =>
        merge other last (former other found) arrived same

theorem grouped_identified {records : List Record}
    (identified : ∀ record ∈ records, record.Identified) :
    ∀ object ∈ grouped records, object.Identified :=
  forall_mem_grouped identified fun _ _ object record same => object.merge record same

theorem eraseDups_of_mem {α : Type} [BEq α] [LawfulBEq α] {items : List α} {last : α}
    (known : last ∈ items) : (items ++ [last]).eraseDups = items.eraseDups := by
  rw [List.eraseDups_append]
  simp [List.removeAll, known]

theorem eraseDups_of_not_mem {α : Type} [BEq α] [LawfulBEq α] {items : List α} {last : α}
    (fresh : last ∉ items) : (items ++ [last]).eraseDups = items.eraseDups ++ [last] := by
  rw [List.eraseDups_append]
  simp [List.removeAll, fresh, List.eraseDups_cons]

/-- The ids of objects are those of the records in the order in which they appear first. -/
theorem ids_grouped {records : List Record} (identified : ∀ record ∈ records, record.Identified) :
    (grouped records).map Record.id? = (records.map Record.id?).eraseDups := by
  induction records using List.reverseRecOn with
  | nil => rfl
  | append_singleton records last induction =>
      have former := induction fun record found => identified record (List.mem_append_left _ found)
      have keeps : Keeps Record.id? Record.merge (grouped records) [last] :=
        keeps_ids fun record found => identified record (List.mem_append_right _ found)
      rw [grouped_append, keys_put keeps, former, List.map_append, List.map_singleton]
      by_cases known : last.id? ∈ records.map Record.id?
      · rw [if_pos (List.mem_eraseDups.mpr known), eraseDups_of_mem known]
      · rw [if_neg (mt List.mem_eraseDups.mp known), eraseDups_of_not_mem known]

theorem distinct_grouped {records : List Record}
    (identified : ∀ record ∈ records, record.Identified) :
    ((grouped records).map Record.id?).Nodup := by
  induction records using List.reverseRecOn with
  | nil => exact List.nodup_nil
  | append_singleton records last induction =>
      rw [grouped_append]
      exact nodup_put (keeps_ids fun record found =>
        identified record (List.mem_append_right _ found))
        (induction fun record found => identified record (List.mem_append_left _ found))

/-- What records with an id hold is what an object with this id holds. -/
theorem exists_mem_grouped {records : List Record}
    (identified : ∀ record ∈ records, record.Identified) (id : String) (path : List String)
    (text : String) :
    (∃ object ∈ grouped records, object.id? = some id ∧ object.Holds path text) ↔
      ∃ record ∈ records, record.id? = some id ∧ record.Holds path text := by
  induction records using List.reverseRecOn with
  | nil => simp [grouped]
  | append_singleton records last induction =>
      have former := induction fun record found => identified record (List.mem_append_left _ found)
      obtain ⟨proper, lastId, known⟩ := identified last (by simp)
      rw [grouped_append, exists_mem_put, former]
      · simp [or_and_right, exists_or]
      · intro object _ same
        rw [Record.id?_merge proper (same.trans known) known, same, known, Record.holds_merge,
          and_or_left]

/-- Objects portray rows: their ids are those of the rows in the order in which they appear first,
and an object holds a text at a path exactly if a row with its id gives it there. -/
structure Portrays (objects : List Record) (rows : List Solution) : Prop where
  ids : objects.map Record.id? = (rows.map (·.text? "id")).eraseDups
  distinct : (objects.map Record.id?).Nodup
  holds : ∀ object ∈ objects, ∀ path text, object.Holds path text ↔
    ∃ row ∈ rows, row.text? "id" = object.id? ∧ row.Gives path text

theorem identified_rowRecord {rows : List Solution}
    (known : ∀ row ∈ rows, ∃ id, (rowRecord [] row).id? = some id) :
    ∀ record ∈ rows.map (rowRecord []), record.Identified := by
  intro record found
  obtain ⟨row, mem, rfl⟩ := List.mem_map.mp found
  exact ⟨(built_rowRecord [] row).proper, known row mem⟩

theorem Record.holds_id {record : Record} {id : String} (known : record.id? = some id) :
    record.Holds ["id"] id :=
  .term (List.mem_of_find?_eq_some (id?_eq_some.mp known)) List.mem_cons_self

theorem text?_eq_of_rowRecord {row : Solution} (distinct : row.Distinct) {id : String}
    (known : (rowRecord [] row).id? = some id) : row.text? "id" = some id := by
  obtain ⟨⟨name, term⟩, bound, splits, rfl⟩ := holds_rowRecord.mp (Record.holds_id known)
  obtain rfl : name = "id" := String.toList_injective splits.eq_of_single
  rw [Solution.text?, distinct.get?_eq bound]
  rfl

theorem portrays_readObjects {rows : List Solution} {objects : List Record}
    (distinct : ∀ row ∈ rows, row.Distinct) (read : readObjects rows = .ok objects) :
    Portrays objects rows := by
  obtain ⟨known, rfl⟩ := readObjects_eq_ok.mp read
  have identified := identified_rowRecord known
  have ids : ∀ row ∈ rows, (rowRecord [] row).id? = row.text? "id" := by
    intro row found
    obtain ⟨id, isId⟩ := known row found
    rw [isId, text?_eq_of_rowRecord (distinct row found) isId]
  have apart := distinct_grouped identified
  refine ⟨?_, apart, fun object found path text => ?_⟩
  · rw [ids_grouped identified, List.map_map]
    exact congrArg List.eraseDups (List.map_congr_left ids)
  · obtain ⟨-, id, isId⟩ := grouped_identified identified object found
    have only : object.Holds path text ↔ ∃ other ∈ grouped (rows.map (rowRecord [])),
        other.id? = some id ∧ other.Holds path text := by
      constructor
      · exact fun holds => ⟨object, found, isId, holds⟩
      · rintro ⟨other, mem, same, holds⟩
        rwa [List.inj_on_of_nodup_map apart found mem (isId.trans same.symm)]
    rw [only, exists_mem_grouped identified id path text, isId]
    constructor
    · rintro ⟨record, mem, same, holds⟩
      obtain ⟨row, inRows, rfl⟩ := List.mem_map.mp mem
      exact ⟨row, inRows, (ids row inRows).symm.trans same, holds_rowRecord.mp holds⟩
    · rintro ⟨row, mem, same, gives⟩
      exact ⟨rowRecord [] row, List.mem_map_of_mem mem, (ids row mem).trans same,
        holds_rowRecord.mpr gives⟩

/-- Objects lose and invent nothing, and those of a page are the objects of the rows without the
column that the page is sorted by. -/
theorem readObjects_portrays {rows : List Solution} (distinct : ∀ row ∈ rows, row.Distinct) :
    (∀ objects, readObjects rows = .ok objects → Portrays objects rows) ∧
      ∀ objects, readPage rows = .ok objects →
        Portrays objects (rows.map (·.without [sortColumn])) := by
  refine ⟨fun objects read => portrays_readObjects distinct read, fun objects read => ?_⟩
  rw [readPage, objectsWithout_eq] at read
  refine portrays_readObjects (fun row found => ?_) read
  obtain ⟨whole, mem, rfl⟩ := List.mem_map.mp found
  exact (distinct whole mem).without [sortColumn]

/-- A row whose columns hold plain literals. -/
def literalRow (columns : List (String × String)) : Solution :=
  ⟨columns.map fun column => (column.1, some (.literal (.plain column.2)))⟩

/-- A row of a manuscript, with a spelling of the name of its author. -/
def gospelsRow (author : String) : Solution :=
  literalRow [("id", "m1"), ("author__id", "a1"), ("author__prefLabel", author),
    ("prefLabel", "Gospels"), ("orderBy", "Gospels")]

/-- An author by the spellings of his name. -/
def author (name : String) (others : List String) : Record :=
  .of [.of "id" (.term "a1") [], .of "prefLabel" (.term name) (others.map .term)]

def gospels (author : Record) : Record :=
  .of [.of "id" (.term "m1") [], .of "prefLabel" (.term "Gospels") [],
    .of "author" (.record author) []]

/-- A manuscript with the value that a page is sorted by. -/
def sortedGospels (author : Record) : Record :=
  .of [.of "id" (.term "m1") [], .of "prefLabel" (.term "Gospels") [],
    .of "orderBy" (.term "Gospels") [], .of "author" (.record author) []]

/-- Two rows of a manuscript make one object with one author, who has two names. -/
theorem readObjects_portrays_gospels :
    (∀ row ∈ [gospelsRow "Beda", gospelsRow "Bede"], row.Distinct) ∧
      readObjects [gospelsRow "Beda", gospelsRow "Bede"] =
        .ok [sortedGospels (author "Beda" ["Bede"])] ∧
      Portrays [sortedGospels (author "Beda" ["Bede"])] [gospelsRow "Beda", gospelsRow "Bede"] ∧
      readPage [gospelsRow "Beda", gospelsRow "Bede"] = .ok [gospels (author "Beda" ["Bede"])] ∧
      Portrays [gospels (author "Beda" ["Bede"])]
        ([gospelsRow "Beda", gospelsRow "Bede"].map (·.without [sortColumn])) := by
  have distinct : ∀ row ∈ [gospelsRow "Beda", gospelsRow "Bede"], row.Distinct := by
    simp [gospelsRow, literalRow, Solution.Distinct]
  have objects : readObjects [gospelsRow "Beda", gospelsRow "Bede"] =
      .ok [sortedGospels (author "Beda" ["Bede"])] := by cbv
  have page : readPage [gospelsRow "Beda", gospelsRow "Bede"] =
      .ok [gospels (author "Beda" ["Bede"])] := by cbv
  have portrays := readObjects_portrays distinct
  exact ⟨distinct, objects, portrays.1 _ objects, page, portrays.2 _ page⟩

theorem built_grouped {records : List Record} (built : ∀ record ∈ records, record.Built) :
    ∀ object ∈ grouped records, object.Built :=
  forall_mem_grouped built fun _ _ object record _ => object.merge record

/-- The objects of rows are built by pushing and merging. -/
theorem built_objects {skipped : List String} {rows : List Solution} {objects : List Record}
    (read : objectsWithout skipped rows = .ok objects) : ∀ object ∈ objects, object.Built := by
  rw [objectsWithout_eq] at read
  obtain ⟨-, rfl⟩ := readObjects_eq_ok.mp read
  refine built_grouped fun record found => ?_
  obtain ⟨row, -, rfl⟩ := List.mem_map.mp found
  exact built_rowRecord [] row

/-- Names, values and ids are apart at every depth of a record that is built, so that its document
repeats no key and has no array of fewer than two items; so they are in the objects of any rows.
Records with the same id keep it when they are merged, and no property loses a value but for a
record that gives way to the merge of itself and a newcomer with its id. -/
theorem built_records_apart :
    (∀ record : Record, record.Built → record.Proper ∧ record.toJson.Tidy) ∧
    (∀ (skipped : List String) (rows : List Solution) (objects : List Record),
      objectsWithout skipped rows = .ok objects →
        ∀ object ∈ objects, object.Built ∧ object.Proper ∧ object.toJson.Tidy) ∧
    (∀ (record other : Record) (id : String), record.Built → other.Built →
      record.id? = some id → other.id? = some id → (record.merge other).id? = some id) ∧
    (∀ (record : Record) (name : String) (value : RecordValue) (asked : String), record.Built →
      Retains (record.valuesOf asked) (if name = asked then [value] else [])
        ((record.push name value).valuesOf asked)) ∧
    ∀ (record other : Record) (asked : String), record.Built → other.Built →
      Retains (record.valuesOf asked) (other.valuesOf asked)
        ((record.merge other).valuesOf asked) := by
  have apart : ∀ record : Record, record.Built → record.Proper ∧ record.toJson.Tidy :=
    fun record built => ⟨built.proper, built.proper.tidy_toJson⟩
  refine ⟨apart, fun skipped rows objects read object found => ?_, ?_, ?_, ?_⟩
  · have built := built_objects read object found
    exact ⟨built, apart object built⟩
  · intro record other id _ otherBuilt known otherKnown
    exact Record.id?_merge otherBuilt.proper known otherKnown
  · intro record name value asked _
    exact Record.retains_push value asked
  · intro record other asked built otherBuilt
    exact Record.retains_merge built.proper otherBuilt.proper asked

theorem built_author (name : String) : (author name []).Built := by
  have pushed : ((Record.withId "a1").push "prefLabel" (.term name)).Built :=
    .pushTerm _ _ (.withId "a1")
  exact pushed

/-- Two records of one author are built, and keep their id when they are merged. -/
theorem built_records_apart_author :
    (author "Beda" []).Built ∧ (author "Bede" []).Built ∧
      (author "Beda" []).merge (author "Bede" []) = author "Beda" ["Bede"] ∧
      (author "Beda" ["Bede"]).Proper ∧ (author "Beda" ["Bede"]).toJson.Tidy ∧
      (author "Beda" ["Bede"]).id? = some "a1" ∧
      Retains [.term "Beda"] [.term "Bede"] ((author "Beda" ["Bede"]).valuesOf "prefLabel") ∧
      readPage [gospelsRow "Beda", gospelsRow "Bede"] = .ok [gospels (author "Beda" ["Bede"])] ∧
      (gospels (author "Beda" ["Bede"])).Built := by
  have first := built_author "Beda"
  have second := built_author "Bede"
  have merged : (author "Beda" []).merge (author "Bede" []) = author "Beda" ["Bede"] := by cbv
  have page : readPage [gospelsRow "Beda", gospelsRow "Bede"] =
      .ok [gospels (author "Beda" ["Bede"])] := by cbv
  obtain ⟨apart, objects, ids, -, retained⟩ := built_records_apart
  obtain ⟨proper, tidy⟩ := apart _ (first.merge second)
  have id := ids _ _ "a1" first second (by cbv) (by cbv)
  have kept := retained _ _ "prefLabel" first second
  have before : (author "Beda" []).valuesOf "prefLabel" = [.term "Beda"] := by cbv
  have arrived : (author "Bede" []).valuesOf "prefLabel" = [.term "Bede"] := by cbv
  rw [merged] at proper tidy id kept
  rw [before, arrived] at kept
  exact ⟨first, second, merged, proper, tidy, id, kept, page,
    (objects _ _ _ page _ (by simp)).1⟩

end FacetedQuery
