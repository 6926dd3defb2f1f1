import FacetedQuery.Proofs.Decimal.Spelling
import FacetedQuery.Proofs.Results.Shape

/-!
# Coordinates that are finite

The columns `lat` and `long` are read as double-precision numbers, and whatever is read is taken.  A
name of infinity or of no number is read as well, and so is a numeral beyond the greatest number.
The coordinates that come of them are no finite numbers, so that JSON has `null` in their place.
-/

namespace FacetedQuery

open Decimal (SpellsNumeral SpellsSpecial isFinite_iff_of_readFloat? isSome_readFloat?_iff)
open Outcome (bind_eq_ok fault? fault?_eq_none toOption_eq_some)

variable {α : Type} {rows : List Solution} {row last : Solution} {index : Nat} {column : String}

/-- A text that spells a number between blanks, be it by a numeral or by a name. -/
def SpellsDegrees (value : String) : Prop :=
  (∃ numeral, SpellsNumeral numeral (Text.trim value).toList) ∨
    SpellsSpecial (Text.trim value).toList

/-- A text that spells a finite number between blanks: a numeral below the limit. -/
def SpellsFinite (value : String) : Prop :=
  ∃ numeral, SpellsNumeral numeral (Text.trim value).toList ∧ numeral.InRange

theorem NumberKind.read?_degrees : NumberKind.degrees.read? = Decimal.readFloat? :=
  rfl

/-- A column of degrees is reported exactly if it is unbound or its text spells no number. -/
theorem Expectation.flaw?_degrees {fault : MappingFault} :
    (number column .degrees).flaw? row index = some fault ↔
      row.text? column = none ∧ fault = .missingColumn column index ∨
      ∃ value, row.text? column = some value ∧ ¬SpellsDegrees value ∧
        fault = .invalidValue column index value "decimal degrees" := by
  have admits (value : String) :
      (number column .degrees).admits value = true ↔ SpellsDegrees value := by
    simp only [number, ifBound, NumberKind.read?_degrees]
    exact isSome_readFloat?_iff
  have isColumn : (number column .degrees).column = column := rfl
  have isRequired : (number column .degrees).required = true := rfl
  have isExpected : (number column .degrees).expected = "decimal degrees" := rfl
  unfold flaw?
  rw [isColumn, isRequired, isExpected]
  cases row.text? column with
  | none => simp [eq_comm]
  | some value =>
      by_cases spells : SpellsDegrees value
      · simp [(admits value).mpr spells, spells]
      · simp [mt (admits value).mp spells, spells, eq_comm]

theorem Solution.number_eq_ok {kind : NumberKind α} {found : α} :
    row.number index kind column = .ok found ↔
      ∃ value, row.text? column = some value ∧ kind.read? (Text.trim value).toList =
        some found := by
  unfold number number?
  cases row.text? column with
  | none => exact iff_of_false nofun nofun
  | some value =>
      cases read : kind.read? (Text.trim value).toList with
      | none => simp [read, Bind.bind, Except.bind]
      | some other => simp [read, Bind.bind, Except.bind, pure, Except.pure]

/-- Both coordinates are finite numbers. -/
def Coordinates.IsFinite (coordinates : Coordinates) : Prop :=
  coordinates.latitude.isFinite = true ∧ coordinates.longitude.isFinite = true

/-- A row binds both columns of coordinates to texts that spell finite numbers. -/
def Solution.IsLocated (row : Solution) : Prop :=
  ∀ column ∈ ["lat", "long"], ∃ value, row.text? column = some value ∧ SpellsFinite value

theorem isFinite_of_number {number : Float} (read : row.number index .degrees column = .ok number) :
    number.isFinite = true ↔ ∃ value, row.text? column = some value ∧ SpellsFinite value := by
  obtain ⟨value, isValue, isNumber⟩ := Solution.number_eq_ok.mp read
  rw [NumberKind.read?_degrees] at isNumber
  have finite : number.isFinite = true ↔ SpellsFinite value := isFinite_iff_of_readFloat? isNumber
  simp [isValue, finite]

theorem isFinite_of_readLocation {coordinates : Coordinates}
    (read : readLocation row index = .ok coordinates) : coordinates.IsFinite ↔ row.IsLocated := by
  obtain ⟨latitude, isLatitude, further⟩ := bind_eq_ok.mp read
  obtain ⟨longitude, isLongitude, same⟩ := bind_eq_ok.mp further
  cases same
  simp only [Coordinates.IsFinite, Solution.IsLocated, isFinite_of_number isLatitude,
    isFinite_of_number isLongitude, List.forall_mem_cons, List.not_mem_nil, false_implies,
    implies_true, and_true]

/-- A row of a list that repeats no id of a row before it. -/
def FreshIn (rows : List Solution) (row : Solution) : Prop :=
  ∃ before after, rows = before ++ row :: after ∧ ¬RepeatsId before row

/-- The values of rows are read from the rows that repeat no id. -/
theorem mem_readDistinct {id : α → String} {read : Solution → Nat → String → Except MappingFault α}
    (keyed : ∀ row index key value, read row index key = .ok value → id value = key)
    {values : List α} (made : readDistinct id read rows = .ok values) {value : α} :
    value ∈ values ↔ ∃ before row after, rows = before ++ row :: after ∧ ¬RepeatsId before row ∧
      ∃ key, row.text? "id" = some key ∧ read row before.length key = .ok value := by
  induction rows using List.reverseRecOn generalizing values with
  | nil =>
      cases made
      simp
  | append_singleton rows last induction =>
      rw [readDistinct, foldlM_zipIdx_append] at made
      obtain ⟨found, isFound, taken⟩ := bind_eq_ok.mp made
      obtain ⟨key, isKey, further⟩ := bind_eq_ok.mp taken
      have isId := Solution.text_eq_ok.mp isKey
      have repeats := any_iff_repeatsId keyed isFound isId
      rw [exists_split_append, ← induction isFound]
      by_cases again : RepeatsId rows last
      · rw [if_pos (repeats.mpr again)] at further
        cases further
        simp [again]
      · rw [if_neg (mt repeats.mp again)] at further
        obtain ⟨new, isNew, same⟩ := bind_eq_ok.mp further
        cases same
        simp [again, isId, isNew, eq_comm]

theorem isFinite_of_readPlace {id : String} {place : Place}
    (read : readPlace row index id = .ok place) :
    place.location.IsFinite ↔ row.IsLocated := by
  obtain ⟨location, isLocation, further⟩ := bind_eq_ok.mp read
  obtain ⟨count, -, same⟩ := bind_eq_ok.mp further
  cases same
  exact isFinite_of_readLocation isLocation

/-- A row that repeats no id makes a place if places are read. -/
theorem exists_readPlace {before after : List Solution} {places : List Place}
    (made : readPlaces (before ++ row :: after) = .ok places) (fresh : ¬RepeatsId before row) :
    ∃ key place, row.text? "id" = some key ∧ readPlace row before.length key = .ok place := by
  have spares := (stopsAtFirst_readPlaces _).succeeds.mp ⟨places, made⟩
  have flawless : row.flaw? Expectation.places before.length = none :=
    Option.eq_none_iff_forall_ne_some.mpr fun fault flawed =>
      spares before row after rfl fault ⟨fresh, flawed⟩
  have split : row.flaw? Expectation.places before.length =
      ((Expectation.bound "id").flaw? row before.length).or
        (row.flaw? (Expectation.coordinates ++ [.ifBound "instanceCount" .count]) before.length) :=
    row.flaw?_cons _ _ _
  rw [split, Option.or_eq_none_iff] at flawless
  cases isId : row.text? "id" with
  | none => cases flawless.1.symm.trans (Expectation.flaw?_of_unbound isId)
  | some key =>
      obtain ⟨place, isPlace⟩ := fault?_eq_none.mp
        ((fault?_readPlace row before.length key).trans flawless.2)
      exact ⟨key, place, rfl, isPlace⟩

/-- Places are finite exactly if the rows that they are read from spell finite numbers. -/
theorem isFinite_of_readPlaces {places : List Place} (made : readPlaces rows = .ok places) :
    (∀ place ∈ places, place.location.IsFinite) ↔ ∀ row, FreshIn rows row → row.IsLocated := by
  have members (place : Place) := @mem_readDistinct _ rows _ readPlace
    (fun _ _ _ _ read => id_of_readPlace read) _ made place
  constructor
  · rintro finite row ⟨before, after, rfl, fresh⟩
    obtain ⟨key, place, isId, isPlace⟩ := exists_readPlace made fresh
    have member := (members place).mpr ⟨before, row, after, rfl, fresh, key, isId, isPlace⟩
    exact (isFinite_of_readPlace isPlace).mp (finite place member)
  · intro located place member
    obtain ⟨before, row, after, split, fresh, key, -, isPlace⟩ := (members place).mp member
    exact (isFinite_of_readPlace isPlace).mpr (located row ⟨before, after, split, fresh⟩)

theorem isFinite_of_readCoordinates {found : List Coordinates}
    (made : readCoordinates rows = .ok found) :
    (∀ coordinates ∈ found, coordinates.IsFinite) ↔ ∀ row ∈ rows, row.IsLocated := by
  have alike : List.Forall₂ (fun row coordinates => coordinates.IsFinite ↔
    row.IsLocated) rows found :=
    @forall₂_of_mapRows _ readLocation _ (fun _ _ _ => isFinite_of_readLocation) _ _ made
  clear made
  induction alike with
  | nil => exact iff_of_true nofun nofun
  | cons same _ induction =>
      rw [List.forall_mem_cons, List.forall_mem_cons]
      exact and_congr same induction

/-- A member of an object is written `null`. -/
def Json.Value.HasNull : Json.Value → Prop
  | .object members => ∃ member ∈ members, member.2.write = "null".toList
  | _ => False

theorem Json.write_real {number : Float} :
    (Json.Value.real number).write = "null".toList ↔ number.isFinite = false := by
  have isWritten : (Json.Value.real number).write = (Decimal.mixed? number).getD "null".toList := by
    rw [Json.Value.real, Json.Value.write, Json.Number.write]
  rw [isWritten, ← Decimal.mixed?_eq_none]
  cases written : Decimal.mixed? number with
  | none => simp
  | some text =>
      refine iff_of_false ?_ nofun
      rintro rfl
      exact absurd (Decimal.isNumeric_mixed written 'n' (by decide)) (by decide)

theorem Coordinates.hasNull_toJson (coordinates : Coordinates) :
    coordinates.toJson.HasNull ↔ ¬coordinates.IsFinite := by
  simp only [toJson, Json.Value.HasNull, IsFinite, List.mem_cons, List.not_mem_nil, or_false,
    or_and_right, exists_or, exists_eq_left, Json.write_real, not_and_or, Bool.not_eq_true]

/-- Coordinates and places are read unless a column of degrees is unbound or its text spells no
number, which is reported for the first such row; rows that repeat the id of a place are passed
over.  All coordinates that are read are finite, and then none is written as `null`, exactly if all
rows that are read spell finite numbers, and not the name of infinity or of no number or a numeral
beyond the limit. -/
theorem coordinates_of_degrees (rows : List Solution) :
    StopsAtFirst (.ofShape Expectation.coordinates) rows (readCoordinates rows) ∧
    StopsAtFirst (.ofFresh Expectation.places) rows (readPlaces rows) ∧
    (∀ (row : Solution) (index : Nat) (column : String) (fault : MappingFault),
      (Expectation.number column .degrees).flaw? row index = some fault ↔
        row.text? column = none ∧ fault = .missingColumn column index ∨
        ∃ value, row.text? column = some value ∧ ¬SpellsDegrees value ∧
          fault = .invalidValue column index value "decimal degrees") ∧
    (∀ found, readCoordinates rows = .ok found →
      ((∀ coordinates ∈ found, coordinates.IsFinite) ↔ ∀ row ∈ rows, row.IsLocated)) ∧
    (∀ places, readPlaces rows = .ok places →
      ((∀ place ∈ places, place.location.IsFinite) ↔ ∀ row, FreshIn rows row → row.IsLocated)) ∧
    ∀ coordinates : Coordinates, coordinates.toJson.HasNull ↔ ¬coordinates.IsFinite :=
  ⟨stopsAtFirst_mapRows fault?_readLocation rows, stopsAtFirst_readPlaces rows,
    fun _ _ _ _ => Expectation.flaw?_degrees, fun _ => isFinite_of_readCoordinates,
    fun _ => isFinite_of_readPlaces, Coordinates.hasNull_toJson⟩

/-- A row whose latitude is the name of no number. -/
def namedRow : Solution :=
  literalRow [("lat", "NaN"), ("long", "2.5")]

theorem exists_null_latitude : ∃ found, readCoordinates [namedRow] = .ok found ∧
    found.map (fun coordinates => (coordinates.latitude.isFinite, coordinates.toJson.compact)) =
      [(false, "\x7b\"lat\":null,\"long\":2.5\x7d")] := by
  have isRead : (readCoordinates [namedRow]).toOption.map (List.map fun coordinates =>
      (coordinates.latitude.isFinite, coordinates.toJson.compact)) =
        some [(false, "\x7b\"lat\":null,\"long\":2.5\x7d")] := by
    decide +kernel
  obtain ⟨found, read, written⟩ := Option.map_eq_some_iff.mp isRead
  exact ⟨found, toOption_eq_some.mp read, written⟩

end FacetedQuery
