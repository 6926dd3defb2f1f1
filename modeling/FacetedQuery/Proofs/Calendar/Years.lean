import Mathlib.Algebra.Group.Nat.Defs
import FacetedQuery.Constraint
import FacetedQuery.Proofs.Calendar.Reading

/-!
# Years and their edges

A year begins on its first of January and ends on its thirty-first of December, the day before the
next year begins, and every day belongs to the year in which it lies.  The edges of a year are dates
unless they are out of range, and they are the dates that the written edges read as.
-/

namespace FacetedQuery

namespace Calendar

def yearLength (year : Int) : Nat :=
  if isLeap year then 366 else 365

theorem isLeap_iff (year : Int) :
    isLeap year = true ↔ year % 4 = 0 ∧ (year % 100 ≠ 0 ∨ year % 400 = 0) := by
  simp [isLeap]

theorem yearStart_succ (year : Int) : yearStart (year + 1) = yearStart year + yearLength year := by
  unfold yearLength
  split
  · next leap =>
    rw [isLeap_iff] at leap
    simp only [yearStart]
    omega
  · next common =>
    rw [isLeap_iff] at common
    simp only [yearStart]
    omega

theorem yearLength_pos (year : Int) : 0 < yearLength year := by
  unfold yearLength
  split <;> decide

theorem yearStart_mono {first second : Int} (ordered : first ≤ second) :
    yearStart first ≤ yearStart second := by
  simp only [yearStart]
  omega

theorem yearStart_lt {first second : Int} (ordered : first < second) :
    yearStart first < yearStart second := by
  have next := yearStart_mono (show first + 1 ≤ second by omega)
  have longer := yearLength_pos first
  rw [yearStart_succ] at next
  omega

theorem dayNumber_first (year : Int) : dayNumber year 1 1 = yearStart year := by
  simp [dayNumber, daysBeforeMonth, daysInMonth]

/-- The day after the last one of a year begins the next year. -/
theorem dayNumber_last (year : Int) : dayNumber year 12 31 + 1 = yearStart (year + 1) := by
  rw [yearStart_succ]
  unfold yearLength
  by_cases leap : isLeap year = true <;> simp [dayNumber, daysBeforeMonth, daysInMonth, leap] <;>
    omega

namespace Date

/-- The number of a day in the calendar. -/
def number (date : Date) : Int :=
  dayNumber date.year date.month date.day

/-- A day belongs to its year. -/
theorem number_bounds (date : Date) :
    yearStart date.year ≤ date.number ∧ date.number < yearStart (date.year + 1) := by
  obtain ⟨⟨first, last⟩, ⟨low, high⟩, -, -⟩ := date.bounds
  rw [number, yearStart_succ]
  unfold yearLength
  generalize date.month = month at first last high
  generalize date.day = day at low high
  generalize date.year = year at high
  have isMonth : month ∈ [1, 2, 3, 4, 5, 6, 7, 8, 9, 10, 11, 12] := by
    simp only [List.mem_cons, List.not_mem_nil, or_false]
    omega
  simp only [List.mem_cons, List.not_mem_nil, or_false] at isMonth
  by_cases leap : isLeap year = true <;>
    rcases isMonth with rfl | rfl | rfl | rfl | rfl | rfl | rfl | rfl | rfl | rfl | rfl | rfl <;>
      simp only [daysInMonth, leap] at high <;>
      simp only [dayNumber, daysBeforeMonth, daysInMonth, leap] <;>
      simp at high ⊢ <;>
      omega

theorem yearStart_le_number {date : Date} {year : Int} :
    yearStart year ≤ date.number ↔ year ≤ date.year := by
  obtain ⟨low, high⟩ := date.number_bounds
  constructor
  · intro after
    apply Int.not_lt.mp
    intro later
    have next := yearStart_mono (show date.year + 1 ≤ year by omega)
    omega
  · intro ordered
    have start := yearStart_mono ordered
    omega

theorem second_of_open {date : Date} (noOffset : date.offset = none) :
    date.second = date.number * 86400 := by
  simp [second, secondOf, noOffset, number]

/-- Dates without offset are ordered like the numbers of their days. -/
theorem compare?_of_open {first second : Date} (noOffset : first.offset = none)
    (noOther : second.offset = none) :
    first.compare? second = some (compare first.number second.number) := by
  have scaled : compare (first.number * 86400) (second.number * 86400) =
      compare first.number second.number := by
    simp only [compare, compareOfLessAndEq]
    have less : first.number * 86400 < second.number * 86400 ↔ first.number < second.number := by
      omega
    have same : first.number * 86400 = second.number * 86400 ↔ first.number = second.number := by
      omega
    simp only [less, same]
  simp [compare?, noOffset, noOther, compareSeconds, second_of_open, scaled]

theorem isAfter_of_open {first second : Date} (noOffset : first.offset = none)
    (noOther : second.offset = none) :
    first.isAfter second = true ↔ second.number < first.number := by
  rw [isAfter, compare?_of_open noOffset noOther, beq_iff_eq, Option.some_inj]
  exact Int.compare_eq_gt

end Date

end Calendar

namespace YearEdge

open Calendar (Date dayNumber yearStart)

def month : YearEdge → Nat
  | .first => 1
  | .last => 12

def day : YearEdge → Nat
  | .first => 1
  | .last => 31

/-- A date is the first of January or the thirty-first of December of a year, without an offset. -/
structure IsEdge (edge : YearEdge) (year : Int) (date : Date) : Prop where
  year : date.year = year
  month : date.month = edge.month
  day : date.day = edge.day
  offset : date.offset = none

variable {edge : YearEdge} {year : Int} {date : Date}

theorem date?_eq_some : edge.date? year = some date ↔ edge.IsEdge year date := by
  have parts : edge.date? year = some date ↔ date.year = year ∧ date.month = edge.month ∧
      date.day = edge.day ∧ date.offset = none := by
    cases edge <;> exact Date.ofParts?_eq_some
  rw [parts]
  constructor
  · rintro ⟨isYear, isMonth, isDay, noOffset⟩
    exact ⟨isYear, isMonth, isDay, noOffset⟩
  · rintro ⟨isYear, isMonth, isDay, noOffset⟩
    exact ⟨isYear, isMonth, isDay, noOffset⟩

/-- The seconds up to the edge of a year. -/
def second (edge : YearEdge) (year : Int) : Int :=
  Calendar.secondOf year edge.month edge.day none

theorem date?_eq_none :
    edge.date? year = none ↔ Calendar.inSecondRange (edge.second year) = false := by
  have parts : edge.date? year = none ↔
      ¬Calendar.isDate year edge.month edge.day none = true := by
    cases edge <;> simp [date?, Date.ofParts?, month, day]
  have inside : 1 ≤ edge.day ∧ edge.day ≤ Calendar.daysInMonth year edge.month := by
    cases edge <;> simp [day, month, Calendar.daysInMonth]
  rw [parts, second]
  simp [Calendar.isDate, inside]

/-- The edge of a year as a date is written. -/
def written (edge : YearEdge) (year : Int) : String :=
  String.ofList (Date.renderYear year ++ '-' :: Date.renderTwo edge.month ++
    '-' :: Date.renderTwo edge.day)

/-- The edge of a year is the date that its text reads as. -/
theorem read?_written (edge : YearEdge) (year : Int) :
    Date.read? (edge.written year) = edge.date? year := by
  have low : edge.month < 100 ∧ edge.day < 100 := by cases edge <;> decide
  have years := Date.readYear?_renderYear year
    (Date.ends_hyphen (Date.renderTwo edge.month ++ '-' :: Date.renderTwo edge.day))
  have months := Date.readTwo?_renderTwo low.1 ('-' :: Date.renderTwo edge.day)
  have days := Date.readTwo?_renderTwo low.2 []
  rw [List.append_nil] at days
  have parts : Date.ofParts? year edge.month edge.day none = edge.date? year := by
    cases edge <;> rfl
  simp only [written, Date.read?, String.toList_ofList, Date.readChars?, List.append_assoc,
    List.cons_append, years, months, days, Date.dropHyphen?, Date.readOffset?,
    Option.bind_eq_bind, Option.bind_some, parts]

theorem IsEdge.number_first (isEdge : IsEdge .first year date) : date.number = yearStart year := by
  rw [Date.number, isEdge.year, isEdge.month, isEdge.day]
  exact Calendar.dayNumber_first year

theorem IsEdge.number_last (isEdge : IsEdge .last year date) :
    date.number + 1 = yearStart (year + 1) := by
  rw [Date.number, isEdge.year, isEdge.month, isEdge.day]
  exact Calendar.dayNumber_last year

/-- Years of ten digits and less have edges. -/
theorem exists_isEdge (edge : YearEdge) (near : year.natAbs ≤ 10 ^ 10) :
    ∃ date, edge.IsEdge year date := by
  cases found : edge.date? year with
  | some date => exact ⟨date, date?_eq_some.mp found⟩
  | none =>
      have far := date?_eq_none.mp found
      have limit : Calendar.greatestSecond = 170141183460469231731 := by decide
      have days : (dayNumber year edge.month edge.day).natAbs ≤ 366 * (10 ^ 10 + 2) := by
        cases edge with
        | first =>
            have first := Calendar.dayNumber_first year
            simp only [month, day, yearStart] at first ⊢
            omega
        | last =>
            have last := Calendar.dayNumber_last year
            simp only [month, day, yearStart] at last ⊢
            omega
      simp only [Calendar.inSecondRange, second, Calendar.secondOf, limit, Option.getD_none,
        decide_eq_false_iff_not] at far
      omega

end YearEdge

end FacetedQuery
