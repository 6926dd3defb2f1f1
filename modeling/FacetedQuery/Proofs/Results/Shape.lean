import FacetedQuery.Proofs.Objects.Identity
import FacetedQuery.Proofs.Results.Flaws
import FacetedQuery.Proofs.Results.Network

/-!
# Rows of the expected shape

What a reader of rows expects of their columns: that a column is bound, or that it holds a number if
it is bound.  Every reader stops at the first row in which it finds a flaw, with a fault that names
the row and the column.  It looks for flaws in every row, except that the reader of places looks no
further than to the id of a row whose id it has met before.
-/

namespace FacetedQuery

open Outcome (bind_eq_ok fault? fault?_bind fault?_bind_pure fault?_eq_some)

variable {α : Type} {rows : List Solution} {last : Solution} {fault : MappingFault}

/-- What is expected of a column: whether it has to be bound, which values it may hold, and what a
fault calls these. -/
structure Expectation where
  column : String
  required : Bool
  admits : String → Bool
  expected : String

namespace Expectation

/-- A column that has to hold a term. -/
def bound (column : String) : Expectation :=
  ⟨column, true, fun _ => true, ""⟩

/-- A column that holds a number of a kind, if anything. -/
def ifBound (column : String) (kind : NumberKind α) : Expectation :=
  ⟨column, false, fun value => (kind.read? (Text.trim value).toList).isSome, kind.name⟩

/-- A column that has to hold a number of a kind. -/
def number (column : String) (kind : NumberKind α) : Expectation :=
  { ifBound column kind with required := true }

/-- The row binds the column if it has to, and any value of the column is admitted. -/
def Meets (expectation : Expectation) (row : Solution) : Prop :=
  (expectation.required = true → row.text? expectation.column ≠ none) ∧
    ∀ value, row.text? expectation.column = some value → expectation.admits value = true

/-- The fault of a row that does not meet an expectation. -/
def flaw? (expectation : Expectation) (row : Solution) (index : Nat) : Option MappingFault :=
  match row.text? expectation.column with
  | none => if expectation.required then some (.missingColumn expectation.column index) else none
  | some value =>
    if expectation.admits value then none
    else some (.invalidValue expectation.column index value expectation.expected)

variable {row : Solution} {index : Nat} {column : String}

theorem flaw?_eq_none {expectation : Expectation} :
    expectation.flaw? row index = none ↔ expectation.Meets row := by
  unfold flaw? Meets
  cases row.text? expectation.column <;> simp

theorem flaw?_of_unbound (unbound : row.text? column = none) :
    (bound column).flaw? row index = some (.missingColumn column index) := by
  simp [flaw?, bound, unbound]

theorem flaw?_of_bound {value : String} (isValue : row.text? column = some value) :
    (bound column).flaw? row index = none := by
  simp [flaw?, bound, isValue]

end Expectation

namespace Solution

/-- The fault of the first expectation that a row does not meet. -/
def flaw? (shape : List Expectation) (row : Solution) (index : Nat) : Option MappingFault :=
  shape.findSome? (·.flaw? row index)

theorem flaw?_eq_none {shape : List Expectation} {row : Solution} {index : Nat} :
    row.flaw? shape index = none ↔ ∀ expectation ∈ shape, expectation.Meets row := by
  simp [flaw?, List.findSome?_eq_none_iff, Expectation.flaw?_eq_none]

variable (row : Solution) (index : Nat) (column : String) (kind : NumberKind α)

@[simp] theorem flaw?_nil : row.flaw? [] index = none :=
  rfl

@[simp] theorem flaw?_cons (expectation : Expectation) (shape : List Expectation) :
    row.flaw? (expectation :: shape) index =
      (expectation.flaw? row index).or (row.flaw? shape index) := by
  rw [flaw?, List.findSome?_cons]
  cases expectation.flaw? row index <;> rfl

theorem fault?_text :
    fault? (row.text index column) = (Expectation.bound column).flaw? row index := by
  unfold text Expectation.flaw? Expectation.bound
  cases row.text? column <;> rfl

theorem fault?_number? :
    fault? (row.number? index kind column) = (Expectation.ifBound column kind).flaw? row index := by
  unfold number? Expectation.flaw? Expectation.ifBound
  cases row.text? column with
  | none => rfl
  | some value =>
      rcases Option.eq_none_or_eq_some (kind.read? (Text.trim value).toList) with
        read | ⟨found, read⟩ <;> simp [read] <;> rfl

theorem fault?_number :
    fault? (row.number index kind column) = (Expectation.number column kind).flaw? row index := by
  unfold number number? Expectation.flaw? Expectation.number Expectation.ifBound
  cases row.text? column with
  | none => rfl
  | some value =>
      rcases Option.eq_none_or_eq_some (kind.read? (Text.trim value).toList) with
        read | ⟨found, read⟩ <;> simp [read] <;> rfl

variable {row index}

theorem fault?_sequence {β : Type} {expectation : Expectation} {shape : List Expectation}
    {first : Except MappingFault α} {next : α → Except MappingFault β}
    (head : fault? first = expectation.flaw? row index)
    (rest : ∀ value, fault? (next value) = row.flaw? shape index) :
    fault? (first >>= next) = row.flaw? (expectation :: shape) index := by
  rw [fault?_bind rest, head, flaw?_cons]

end Solution

namespace Expectation

/-- What is expected of the rows of coordinates. -/
def coordinates : List Expectation :=
  [number "lat" .degrees, number "long" .degrees]

def places : List Expectation :=
  bound "id" :: coordinates ++ [ifBound "instanceCount" .count]

def links : List Expectation :=
  [bound "source", bound "target", ifBound "weight" .count]

/-- What is expected of the rows of objects and of nodes. -/
def entities : List Expectation :=
  [bound "id"]

end Expectation

section

variable (row : Solution) (index : Nat)

theorem fault?_readLocation :
    fault? (readLocation row index) = row.flaw? Expectation.coordinates index := by
  refine Solution.fault?_sequence (row.fault?_number index "lat" .degrees) fun latitude => ?_
  exact Solution.fault?_sequence (row.fault?_number index "long" .degrees) fun longitude => rfl

theorem fault?_readLink :
    fault? (readLink row index) = row.flaw? Expectation.links index := by
  refine Solution.fault?_sequence (row.fault?_text index "source") fun source => ?_
  refine Solution.fault?_sequence (row.fault?_text index "target") fun target => ?_
  exact Solution.fault?_sequence (row.fault?_number? index "weight" .count) fun weight => rfl

theorem fault?_readPlace (id : String) : fault? (readPlace row index id) =
    row.flaw? (Expectation.coordinates ++ [.ifBound "instanceCount" .count]) index := by
  have counted : ∀ location, fault? (row.number? index .count "instanceCount" >>= fun count =>
      pure (Place.mk id (row.text? "prefLabel") location count)) =
        row.flaw? [.ifBound "instanceCount" .count] index := fun location =>
    Solution.fault?_sequence (row.fault?_number? index "instanceCount" .count) fun _ => rfl
  rw [readPlace, fault?_bind counted, fault?_readLocation]
  simp [Expectation.coordinates, Option.or_assoc]

end

/-- A row that repeats the id of a row before it. -/
def RepeatsId (before : List Solution) (row : Solution) : Prop :=
  ∃ id, row.text? "id" = some id ∧ ∃ other ∈ before, other.text? "id" = some id

namespace Flaw

/-- A row that does not meet what is expected of its columns. -/
def ofShape (shape : List Expectation) : Flaw :=
  fun _ row index fault => row.flaw? shape index = some fault

/-- A row that repeats no id and does not meet what is expected of its columns. -/
def ofFresh (shape : List Expectation) : Flaw :=
  fun before row index fault => ¬RepeatsId before row ∧ row.flaw? shape index = some fault

/-- A row that identifies no entity. -/
def ofObjects : Flaw :=
  fun _ row index fault => (¬∃ id, row.Identifies id) ∧ fault = .missingColumn "id" index

theorem namesRow_ofShape (shape : List Expectation) : (ofShape shape).NamesRow := by
  intro before row index fault flawed
  obtain ⟨expectation, -, isFault⟩ := List.exists_of_findSome?_eq_some flawed
  unfold Expectation.flaw? at isFault
  split at isFault
  · split at isFault
    · cases isFault
      rfl
    · cases isFault
  · split at isFault
    · cases isFault
    · cases isFault
      rfl

theorem namesRow_ofFresh (shape : List Expectation) : (ofFresh shape).NamesRow :=
  fun before row index fault flawed => namesRow_ofShape shape before row index fault flawed.2

theorem namesRow_ofObjects : ofObjects.NamesRow := by
  rintro before row index fault ⟨-, rfl⟩
  rfl

end Flaw

theorem mapRows_append (read : Solution → Nat → Except MappingFault α) (rows : List Solution)
    (last : Solution) : mapRows read (rows ++ [last]) = mapRows read rows >>= fun found =>
      read last rows.length >>= fun result => pure (found ++ [result]) := by
  unfold mapRows
  rw [List.zipIdx_append, List.mapM_append]
  simp

theorem stopsAtFirst_mapRows {read : Solution → Nat → Except MappingFault α}
    {shape : List Expectation}
    (reads : ∀ row index, fault? (read row index) = row.flaw? shape index) :
    ∀ rows, StopsAtFirst (.ofShape shape) rows (mapRows read rows) := by
  refine .of_append (fun found row index => read row index >>= fun result =>
    pure (found ++ [result])) ⟨[], rfl⟩ (mapRows_append read) fun rows found last fault _ => ?_
  rw [← fault?_eq_some, fault?_bind_pure, reads]
  rfl

theorem foldlM_zipIdx_append {step : α → Solution × Nat → Except MappingFault α} (start : α)
    (rows : List Solution) (last : Solution) :
    (rows ++ [last]).zipIdx.foldlM step start =
      rows.zipIdx.foldlM step start >>= fun found => step found (last, rows.length) := by
  simp [List.zipIdx_append, List.foldlM_append]

theorem takeRow_eq_error {skipped : List String} {objects : List Record} {row : Solution × Nat} :
    takeRow skipped objects row = .error fault ↔
      (¬∃ id, (rowRecord skipped row.1).id? = some id) ∧ fault = .missingColumn "id" row.2 := by
  rw [takeRow]
  cases (rowRecord skipped row.1).id? with
  | none => simp [eq_comm]
  | some id => simp

theorem stopsAtFirst_readObjects :
    ∀ rows, StopsAtFirst .ofObjects rows (readObjects rows) := by
  refine .of_append (fun found row index => takeRow [] found (row, index)) ⟨[], rfl⟩
    (foldlM_zipIdx_append []) fun rows found last fault _ => ?_
  simp only [takeRow_eq_error, Solution.id?_rowRecord, Flaw.ofObjects]

/-- The column that pages are sorted by has no part in what identifies an entity. -/
theorem stopsAtFirst_readPage : ∀ rows, StopsAtFirst .ofObjects rows (readPage rows) := by
  refine .of_append (fun found row index => takeRow [sortColumn] found (row, index)) ⟨[], rfl⟩
    (foldlM_zipIdx_append []) fun rows found last fault _ => ?_
  simp only [takeRow_eq_error, rowRecord_eq [sortColumn], Solution.id?_rowRecord,
    Solution.identifies_without_sortColumn, Flaw.ofObjects]

section

variable {id : α → String} {read : Solution → Nat → String → Except MappingFault α}

theorem any_iff_repeatsId {found : List α} {key : String}
    (keyed : ∀ row index key value, read row index key = .ok value → id value = key)
    (made : readDistinct id read rows = .ok found) (isId : last.text? "id" = some key) :
    found.any (id · == key) = true ↔ RepeatsId rows last := by
  obtain ⟨keys, isKeys, known⟩ := ids_of_readDistinct keyed made
  have inFound : found.any (id · == key) = true ↔ key ∈ found.map id := by simp
  have inKeys : key ∈ keys ↔ some key ∈ rows.map (·.text? "id") := by simp [isKeys]
  rw [inFound, known, List.mem_eraseDups, inKeys, List.mem_map]
  simp [RepeatsId, isId]

/-- Values for distinct ids are read from rows that bind their id and, unless they repeat the id of
a row before them, meet what else is expected. -/
theorem stopsAtFirst_readDistinct {shape : List Expectation}
    (keyed : ∀ row index key value, read row index key = .ok value → id value = key)
    (reads : ∀ row index key, fault? (read row index key) = row.flaw? shape index) :
    ∀ rows, StopsAtFirst (.ofFresh (.bound "id" :: shape)) rows (readDistinct id read rows) := by
  refine .of_append (fun found row index => do
      let key ← row.text index "id"
      if found.any (id · == key) then return found
      else return found ++ [← read row index key]) ⟨[], rfl⟩
    (foldlM_zipIdx_append []) fun rows found last fault made => ?_
  cases isId : last.text? "id" with
  | none =>
      have missing : last.text rows.length "id" = .error (.missingColumn "id" rows.length) := by
        rw [Solution.text, isId]
      have fresh : ¬RepeatsId rows last := by
        rintro ⟨key, isKey, -⟩
        cases isId.symm.trans isKey
      rw [Outcome.bind_of_error missing, Flaw.ofFresh, Solution.flaw?_cons,
        Expectation.flaw?_of_unbound isId]
      simp [fresh]
  | some key =>
      have repeats := any_iff_repeatsId keyed made isId
      rw [Outcome.bind_of_ok (Solution.text_eq_ok.mpr isId), Flaw.ofFresh, Solution.flaw?_cons,
        Expectation.flaw?_of_bound isId, Option.none_or]
      by_cases again : RepeatsId rows last
      · rw [if_pos (repeats.mpr again)]
        simp [again, pure, Except.pure]
      · rw [if_neg (mt repeats.mp again), ← fault?_eq_some, fault?_bind_pure, reads]
        simp [again]

end

theorem id_of_readPlace {row : Solution} {index : Nat} {id : String} {place : Place}
    (made : readPlace row index id = .ok place) : place.id = id := by
  obtain ⟨location, -, further⟩ := bind_eq_ok.mp made
  obtain ⟨count, -, same⟩ := bind_eq_ok.mp further
  cases same
  rfl

/-- A row that binds its id is a node, whether or not it repeats the id. -/
theorem stopsAtFirst_readNodes :
    ∀ rows, StopsAtFirst (.ofShape Expectation.entities) rows (readNodes rows) := by
  have keyed : ∀ (row : Solution) (_ : Nat) (key : String) (node : NetworkNode),
      (.ok ⟨key, row.text? "prefLabel", row.text? "class"⟩ : Except MappingFault NetworkNode) =
        .ok node → node.id = key := by
    rintro row index key node ⟨⟩
    rfl
  have distinct : ∀ rows, StopsAtFirst (.ofFresh Expectation.entities) rows (readNodes rows) :=
    stopsAtFirst_readDistinct keyed fun row index key => row.flaw?_nil index
  have same : Flaw.ofFresh Expectation.entities = Flaw.ofShape Expectation.entities := by
    funext before row index fault
    refine propext (and_iff_right_of_imp ?_)
    rintro flawed ⟨id, isId, -⟩
    simp [Expectation.entities, Expectation.flaw?_of_bound isId] at flawed
  rwa [same] at distinct

theorem stopsAtFirst_readPlaces :
    ∀ rows, StopsAtFirst (.ofFresh Expectation.places) rows (readPlaces rows) :=
  stopsAtFirst_readDistinct (fun _ _ _ _ made => id_of_readPlace made) fault?_readPlace

/-- To pass over rows that repeat an id makes no difference exactly if none of them is the first row
with a flaw. -/
theorem agreesOn_ofFresh {shape : List Expectation} :
    (Flaw.ofFresh shape).AgreesOn (.ofShape shape) rows ↔
      ∀ before row after, rows = before ++ row :: after → (Flaw.ofShape shape).Spares before →
        RepeatsId before row → row.flaw? shape before.length = none := by
  constructor
  · intro agrees before row after same spares again
    have fresh : (Flaw.ofFresh shape).Spares before :=
      fun earlier other later split fault flawed => spares earlier other later split fault flawed.2
    rw [Option.eq_none_iff_forall_ne_some]
    intro fault flawed
    exact ((agrees before row after same fresh spares fault).mpr flawed).1 again
  · intro overlooked before row after same _ spares fault
    refine ⟨And.right, fun flawed => ⟨fun again => ?_, flawed⟩⟩
    cases (overlooked before row after same spares again).symm.trans flawed

/-- To identify no entity is the same flaw of a row as to bind no id, unless the row binds an id and
identifies no entity all the same, or the other way round. -/
theorem ofObjects_iff {before : List Solution} {row : Solution} {index : Nat} :
    (∀ fault, Flaw.ofObjects before row index fault ↔
        Flaw.ofShape Expectation.entities before row index fault) ↔
      ((∃ id, row.Identifies id) ↔ row.text? "id" ≠ none) := by
  have isFlaw : ∀ fault, Flaw.ofShape Expectation.entities before row index fault ↔
      row.text? "id" = none ∧ fault = .missingColumn "id" index := by
    intro fault
    unfold Flaw.ofShape Expectation.entities
    cases isId : row.text? "id" with
    | none => simp [Expectation.flaw?_of_unbound isId, eq_comm]
    | some id => simp [Expectation.flaw?_of_bound isId]
  simp only [isFlaw, Flaw.ofObjects]
  constructor
  · intro alike
    have atFault := alike (.missingColumn "id" index)
    simp only [and_true] at atFault
    rw [← not_iff_not, atFault, not_ne_iff]
  · intro alike fault
    rw [alike, not_ne_iff]

theorem agreesOn_ofObjects : Flaw.ofObjects.AgreesOn (.ofShape Expectation.entities) rows ↔
    ∀ before row after, rows = before ++ row :: after → Flaw.ofObjects.Spares before →
      (Flaw.ofShape Expectation.entities).Spares before →
        ((∃ id, row.Identifies id) ↔ row.text? "id" ≠ none) := by
  simp only [Flaw.AgreesOn, ofObjects_iff]

/-- Every reader of rows stops at the first row with a flaw, and names this row and the column.  A
row of objects has a flaw if it identifies no entity, and other rows have one if they do not meet
what is expected of a column, but the reader of places sees only the id of a row that repeats an
id.  Objects are read as if only their id were expected exactly if the rows that bind one identify
entities, up to the first flaw, and places as if every row were seen exactly if no row that repeats
an id is the first one with a flaw. -/
theorem readers_stop_at_first_flaw (rows : List Solution) :
    (∀ read ∈ [readObjects, readPage], StopsAtFirst .ofObjects rows (read rows) ∧
      (StopsAtFirst (.ofShape Expectation.entities) rows (read rows) ↔
        ∀ before row after, rows = before ++ row :: after → Flaw.ofObjects.Spares before →
          (Flaw.ofShape Expectation.entities).Spares before →
            ((∃ id, row.Identifies id) ↔ row.text? "id" ≠ none))) ∧
    StopsAtFirst (.ofFresh Expectation.places) rows (readPlaces rows) ∧
    (StopsAtFirst (.ofShape Expectation.places) rows (readPlaces rows) ↔
      ∀ before row after, rows = before ++ row :: after →
        (Flaw.ofShape Expectation.places).Spares before →
          RepeatsId before row → row.flaw? Expectation.places before.length = none) ∧
    StopsAtFirst (.ofShape Expectation.coordinates) rows (readCoordinates rows) ∧
    StopsAtFirst (.ofShape Expectation.links) rows (readLinks rows) ∧
    StopsAtFirst (.ofShape Expectation.entities) rows (readNodes rows) := by
  have places := stopsAtFirst_readPlaces rows
  have overlooked := places.other_iff (Flaw.namesRow_ofFresh _)
    (Flaw.namesRow_ofShape Expectation.places)
  refine ⟨?_, places, overlooked.trans agreesOn_ofFresh,
    stopsAtFirst_mapRows fault?_readLocation rows, stopsAtFirst_mapRows fault?_readLink rows,
    stopsAtFirst_readNodes rows⟩
  intro read isReader
  have objects : StopsAtFirst .ofObjects rows (read rows) := by
    simp only [List.mem_cons, List.not_mem_nil, or_false] at isReader
    rcases isReader with rfl | rfl
    · exact stopsAtFirst_readObjects rows
    · exact stopsAtFirst_readPage rows
  have refused := objects.other_iff Flaw.namesRow_ofObjects
    (Flaw.namesRow_ofShape Expectation.entities)
  exact ⟨objects, refused.trans agreesOn_ofObjects⟩

/-- Two rows of a place, of which only the first one has a number as its latitude. -/
def strayRows : List Solution :=
  [literalRow [("id", "p1"), ("lat", "48.5"), ("long", "2.5")],
    literalRow [("id", "p1"), ("lat", "north"), ("long", "2.5")]]

theorem exists_overlooked_row : (∃ places, readPlaces strayRows = .ok places) ∧
    ∃ row ∈ strayRows, ¬∀ expectation ∈ Expectation.places, expectation.Meets row := by
  have read : fault? (readPlaces strayRows) = none := by decide +kernel
  refine ⟨Outcome.fault?_eq_none.mp read, _, List.mem_cons_of_mem _ List.mem_cons_self, ?_⟩
  rw [← @Solution.flaw?_eq_none _ _ 1]
  decide +kernel

end FacetedQuery
