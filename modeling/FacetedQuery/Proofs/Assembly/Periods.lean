import FacetedQuery.Assembly
import FacetedQuery.Proofs.ConstraintBlock.TimeBounds
import Mathlib.Algebra.Order.Floor.Div
import Mathlib.Data.List.Nodup

/-!
# Periods of years

The inline data of a listing by periods: one row for each period of the given length, with its name
and the days at its ends.  The periods follow each other without a gap from the first year on until
the last year is covered, so that every day of these years lies in exactly one of them.
-/

namespace FacetedQuery.Period

open Calendar (Date)
open Outcome (bind_of_ok mapM_cons_eq_ok mapM_nil_eq_ok toOption_eq_some)
open Rdf (Literal)

/-- A period as a query shows it: its name and the days at its ends. -/
structure Bucket where
  label : String
  first : Date
  last : Date

namespace Bucket

/-- The row of inline data for a period. -/
def row (bucket : Bucket) : String :=
  "(" ++ Text.join " " [(Literal.plain bucket.label).render,
    (Literal.typed bucket.first.render Rdf.xsdDate).render,
    (Literal.typed bucket.last.render Rdf.xsdDate).render] ++ ")"

/-- The inline data of periods. -/
def inlineData (buckets : List Bucket) : String :=
  "VALUES (?period ?periodStart ?periodEnd) " ++ Text.openBrace ++ "\n  " ++
    Text.join "\n  " (buckets.map row) ++ "\n" ++ Text.closeBrace

/-- A period reaches from the first day of a year to the last day of a year and is named after the
two years. -/
structure Covers (bucket : Bucket) (first last : Int) : Prop where
  label : bucket.label = Decimal.integer first ++ "-" ++ Decimal.integer last
  first : YearEdge.IsEdge .first first bucket.first
  last : YearEdge.IsEdge .last last bucket.last

/-- A day lies in a period if it lies neither before nor after it. -/
def Holds (bucket : Bucket) (date : Date) : Prop :=
  bucket.first.isAfter date = false ∧ date.isAfter bucket.last = false

theorem Covers.holds_iff {bucket : Bucket} {first last : Int} (covers : bucket.Covers first last)
    {date : Date} (noOffset : date.offset = none) :
    bucket.Holds date ↔ first ≤ date.year ∧ date.year ≤ last := by
  have starts := Date.isAfter_of_open covers.first.offset noOffset
  have stops := Date.isAfter_of_open noOffset covers.last.offset
  have firstDay := covers.first.number_first
  have nextDay := covers.last.number_last
  have fromFirst : Calendar.yearStart first ≤ date.number ↔ first ≤ date.year :=
    Date.yearStart_le_number
  have fromNext : Calendar.yearStart (last + 1) ≤ date.number ↔ last + 1 ≤ date.year :=
    Date.yearStart_le_number
  rw [Holds, ← Bool.not_eq_true, ← Bool.not_eq_true, starts, stops]
  omega

end Bucket

theorem edge_of_isEdge {edge : YearEdge} {year : Int} {date : Date} (isEdge : edge.IsEdge year date)
    (template : String) :
    Period.edge template edge year = .ok (.typed date.render Rdf.xsdDate) := by
  rw [Period.edge, TimeBound.yearDate_eq_ok.mpr isEdge]

theorem exists_bucket (template : String) {period : Period} (first : period.first.natAbs ≤ 10 ^ 10)
    (last : period.last.natAbs ≤ 10 ^ 10) :
    ∃ bucket : Bucket, row template period = .ok bucket.row ∧
      bucket.Covers period.first period.last := by
  obtain ⟨firstDay, isFirst⟩ := YearEdge.exists_isEdge .first first
  obtain ⟨lastDay, isLast⟩ := YearEdge.exists_isEdge .last last
  refine ⟨⟨period.label, firstDay, lastDay⟩, ?_, rfl, isFirst, isLast⟩
  rw [row, bind_of_ok (edge_of_isEdge isFirst template),
    bind_of_ok (edge_of_isEdge isLast template)]
  rfl

theorem exists_buckets (template : String) {periods : List Period}
    (near : ∀ period ∈ periods, period.first.natAbs ≤ 10 ^ 10 ∧ period.last.natAbs ≤ 10 ^ 10) :
    ∃ buckets : List Bucket, periods.mapM (row template) = .ok (buckets.map Bucket.row) ∧
      List.Forall₂ (fun period bucket => bucket.Covers period.first period.last)
        periods buckets := by
  induction periods with
  | nil => exact ⟨[], mapM_nil_eq_ok.mpr rfl, .nil⟩
  | cons period periods induction =>
      have nearFirst := near period List.mem_cons_self
      obtain ⟨bucket, made, covers⟩ := exists_bucket template nearFirst.1 nearFirst.2
      obtain ⟨buckets, madeRest, coverRest⟩ :=
        induction fun other member => near other (List.mem_cons_of_mem _ member)
      refine ⟨bucket :: buckets, ?_, .cons covers coverRest⟩
      exact mapM_cons_eq_ok.mpr ⟨_, _, made, madeRest, rfl⟩

theorem row_of_edges {template label first last : String} {period : Period}
    (named : period.label = label)
    (isFirst : (edge template .first period.first).toOption = some (.typed first Rdf.xsdDate))
    (isLast : (edge template .last period.last).toOption = some (.typed last Rdf.xsdDate)) :
    row template period = .ok ("(" ++ Text.join " " [(Literal.plain label).render,
      (Literal.typed first Rdf.xsdDate).render, (Literal.typed last Rdf.xsdDate).render] ++
        ")") := by
  subst named
  rw [row, bind_of_ok (toOption_eq_some.mp isFirst), bind_of_ok (toOption_eq_some.mp isLast)]
  rfl

theorem values_of_rows {template : String} {startYear endYear : Int32} {length : UInt32}
    {rows : List String} (positive : length ≠ 0)
    (made : (tile startYear.toInt endYear.toInt length.toNat).mapM (row template) = .ok rows) :
    values template startYear endYear length = .ok ("VALUES (?period ?periodStart ?periodEnd) " ++
      Text.openBrace ++ "\n  " ++ Text.join "\n  " rows ++ "\n" ++ Text.closeBrace) := by
  rw [values, if_neg positive]
  exact bind_of_ok made

/-- The number at the start of a text. -/
def leadingNumber : List Char → Int
  | '-' :: rest => -(Decimal.value (rest.takeWhile Char.isDigit) : Int)
  | text => Decimal.value (text.takeWhile Char.isDigit)

theorem takeWhile_digits (number : Nat) (rest : List Char) :
    (Decimal.digits number ++ '-' :: rest).takeWhile Char.isDigit = Decimal.digits number := by
  rw [List.takeWhile_append_of_pos fun _ => Decimal.isDigit_of_mem_digits]
  simp

theorem leadingNumber_label (period : Period) : leadingNumber period.label.toList =
    period.first := by
  have text : period.label.toList = (Decimal.integer period.first).toList ++
      '-' :: (Decimal.integer period.last).toList := by
    simp [label]
  rw [text]
  unfold Decimal.integer
  by_cases negative : period.first < 0
  · have magnitude : (period.first.natAbs : Int) = -period.first := by omega
    simp [negative, Decimal.natural, leadingNumber, takeWhile_digits,
      Decimal.value_digits, magnitude]
  · have magnitude : (period.first.natAbs : Int) = period.first := by omega
    simp only [negative, if_false, Decimal.natural, String.toList_ofList]
    unfold leadingNumber
    split
    · next equality =>
      obtain ⟨head, tail, isRow⟩ := List.exists_cons_of_ne_nil
        (Decimal.digits_ne_nil period.first.natAbs)
      rw [isRow, List.cons_append] at equality
      obtain rfl : head = '-' := (List.cons.inj equality).1
      exact absurd (Decimal.isDigit_of_mem_digits (isRow ▸ List.mem_cons_self)) (by decide)
    · rw [takeWhile_digits, Decimal.value_digits, magnitude]

/-- The number of periods from one year to another. -/
def count (start stop : Int) (length : Nat) : Nat :=
  if start ≤ stop then (stop - start).toNat / length + 1 else 0

/-- The period with an index. -/
def nth (start : Int) (length index : Nat) : Period :=
  ⟨start + index * length, start + index * length + length - 1⟩

theorem tile_eq (start stop : Int) (length : Nat) :
    tile start stop length = (List.range (count start stop length)).map (nth start length) :=
  rfl

section

variable {start stop : Int} {length index : Nat}

theorem count_eq_ceilDiv (positive : 0 < length) :
    count start stop length = (stop - start + 1).toNat ⌈/⌉ length := by
  unfold count
  rw [Nat.ceilDiv_eq_add_pred_div]
  split
  · next ordered =>
    have sum : (stop - start + 1).toNat + length - 1 = (stop - start).toNat + length := by omega
    rw [sum, Nat.add_div_right _ positive]
  · next reversed =>
    have nothing : (stop - start + 1).toNat = 0 := by omega
    rw [nothing, Nat.zero_add, Nat.div_eq_of_lt (by omega)]

theorem index_mul_le (inside : index < count start stop length) :
    start + index * length ≤ stop := by
  unfold count at inside
  split at inside
  · next ordered =>
    have whole := Nat.mul_le_of_le_div length index _ (Nat.le_of_lt_succ inside)
    rw [← Int.natCast_mul]
    omega
  · omega

/-- The last period reaches the last year. -/
theorem stop_le_last (positive : 0 < length) (final : index + 1 = count start stop length) :
    stop ≤ start + index * length + length - 1 := by
  unfold count at final
  split at final
  · next ordered =>
    obtain rfl : index = (stop - start).toNat / length := by omega
    have rest := Nat.lt_div_mul_add positive (a := (stop - start).toNat)
    rw [← Int.natCast_mul]
    omega
  · omega

/-- Every year from the first to the last one lies in exactly one period. -/
theorem mem_nth_iff (positive : 0 < length) {year : Int} (after : start ≤ year) :
    start + index * length ≤ year ∧ year ≤ start + index * length + length - 1 ↔
      index = (year - start).toNat / length := by
  rw [← Int.natCast_mul]
  constructor
  · rintro ⟨low, high⟩
    apply Eq.symm
    apply Nat.div_eq_of_lt_le
    · omega
    · rw [Nat.succ_mul]
      omega
  · rintro rfl
    have low := Nat.div_mul_le_self (year - start).toNat length
    have high := Nat.lt_div_mul_add positive (a := (year - start).toNat)
    omega

theorem index_lt_count {year : Int} (after : start ≤ year) (before : year ≤ stop) :
    (year - start).toNat / length < count start stop length := by
  rw [count, if_pos (by omega)]
  exact Nat.lt_succ_of_le (Nat.div_le_div_right (by omega))

end

/-- The periods of a length from one year to another. -/
structure Tiling (start stop : Int) (length : Nat) (buckets : List Bucket) : Prop where
  number : buckets.length = (stop - start + 1).toNat ⌈/⌉ length
  covers : ∀ (index : Nat) (inside : index < buckets.length),
    buckets[index].Covers (start + index * length) (start + (index + 1) * length - 1)
  /-- The years are found without overflow. -/
  fits : ∀ bucket ∈ buckets, Decimal.fitsSigned bucket.first.year = true ∧
    Decimal.fitsSigned (bucket.first.year + length) = true
  adjacent : ∀ (index : Nat) (inside : index + 1 < buckets.length),
    buckets[index + 1].first.number = buckets[index].last.number + 1
  starts : ∀ bucket ∈ buckets.head?, bucket.first.year = start
  stops : ∀ bucket ∈ buckets.getLast?, stop ≤ bucket.last.year
  needed : ∀ bucket ∈ buckets, bucket.first.year ≤ stop
  partitions : ∀ date : Date, date.offset = none → start ≤ date.year → date.year ≤ stop →
    ∃! index : Fin buckets.length, buckets[index].Holds date
  named : (buckets.map Bucket.label).Nodup

section

variable {start stop : Int} {length : Nat} {buckets : List Bucket}

/-- Periods in a row cover the years from the one where the first of them starts. -/
def InRow (start : Int) (length : Nat) (buckets : List Bucket) : Prop :=
  ∀ (index : Nat) (inside : index < buckets.length),
    buckets[index].Covers (start + index * length) (start + index * length + length - 1)

theorem exists_inRow (template : String) (near : start.natAbs ≤ 10 ^ 9 * 4)
    (nearStop : stop.natAbs ≤ 10 ^ 9 * 4) (short : length ≤ 10 ^ 9 * 5) :
    ∃ buckets : List Bucket,
      (tile start stop length).mapM (row template) = .ok (buckets.map Bucket.row) ∧
        buckets.length = count start stop length ∧ InRow start length buckets := by
  have nearAll : ∀ period ∈ tile start stop length,
      period.first.natAbs ≤ 10 ^ 10 ∧ period.last.natAbs ≤ 10 ^ 10 := by
    intro period member
    rw [tile_eq] at member
    obtain ⟨index, inside, rfl⟩ := List.mem_map.mp member
    have reached := index_mul_le (List.mem_range.mp inside)
    simp only [nth, ← Int.natCast_mul] at reached ⊢
    omega
  obtain ⟨buckets, made, covering⟩ := exists_buckets template nearAll
  obtain ⟨sameLength, covers⟩ := List.forall₂_iff_get.mp covering
  refine ⟨buckets, made, ?_, ?_⟩
  · rw [← sameLength, tile_eq, List.length_map, List.length_range]
  · intro index inside
    simpa [tile_eq, nth] using covers index (sameLength ▸ inside) inside

namespace InRow

variable (inRow : InRow start length buckets)

include inRow

theorem adjacent (index : Nat) (inside : index + 1 < buckets.length) :
    buckets[index + 1].first.number = buckets[index].last.number + 1 := by
  have ends := (inRow index (by omega)).last.number_last
  have begins := (inRow (index + 1) inside).first.number_first
  have next : start + ((index + 1 : Nat) : Int) * length =
      start + index * length + length - 1 + 1 := by
    rw [Int.natCast_succ, Int.add_mul, Int.one_mul]
    omega
  rw [ends, begins, next]

theorem labels_nodup (positive : 0 < length) : (buckets.map Bucket.label).Nodup := by
  have labels : buckets.map Bucket.label =
      (List.range buckets.length).map fun index => (nth start length index).label := by
    apply List.ext_getElem
    · simp
    · intro index inside _
      rw [List.length_map] at inside
      simpa [nth, label] using (inRow index inside).label
  rw [labels]
  apply List.Nodup.map _ List.nodup_range
  intro index other same
  have starts := congrArg (fun name : String => leadingNumber name.toList) same
  simp only [leadingNumber_label, nth] at starts
  have scaled : (index : Int) * length = other * length := by omega
  exact Int.natCast_inj.mp (Int.eq_of_mul_eq_mul_right (by omega) scaled)

theorem holds_iff {date : Date} (noOffset : date.offset = none) (positive : 0 < length)
    (after : start ≤ date.year) (index : Fin buckets.length) :
    buckets[index].Holds date ↔ (index : Nat) = (date.year - start).toNat / length := by
  rw [← mem_nth_iff positive after]
  exact (inRow index index.isLt).holds_iff noOffset

/-- Periods in a row tile the years if there are as many of them as needed. -/
theorem tiling (number : buckets.length = count start stop length) (positive : 0 < length)
    (near : start.natAbs ≤ 10 ^ 9 * 4) (nearStop : stop.natAbs ≤ 10 ^ 9 * 4)
    (short : length ≤ 10 ^ 9 * 5) : Tiling start stop length buckets := by
  have firstYear : ∀ bucket ∈ buckets, start ≤ bucket.first.year ∧ bucket.first.year ≤ stop := by
    intro bucket member
    obtain ⟨index, inside, rfl⟩ := List.mem_iff_getElem.mp member
    have reached := index_mul_le (number ▸ inside)
    rw [← Int.natCast_mul] at reached
    rw [(inRow index inside).first.year]
    omega
  constructor
  case number => rw [number, count_eq_ceilDiv positive]
  case covers =>
    intro index inside
    have last : start + (index + 1) * length - 1 = start + index * length + length - 1 := by
      rw [Int.add_mul, Int.one_mul]
      omega
    rw [last]
    exact inRow index inside
  case fits =>
    intro bucket member
    have years := firstYear bucket member
    constructor
    · apply Decimal.fitsSigned_of_few
      omega
    · apply Decimal.fitsSigned_of_few
      omega
  case adjacent => exact inRow.adjacent
  case starts =>
    intro bucket isFirst
    rw [List.head?_eq_getElem?] at isFirst
    obtain ⟨inside, rfl⟩ := List.getElem?_eq_some_iff.mp isFirst
    rw [(inRow 0 inside).first.year]
    simp
  case stops =>
    intro bucket isLast
    rw [List.getLast?_eq_getElem?] at isLast
    obtain ⟨inside, rfl⟩ := List.getElem?_eq_some_iff.mp isLast
    rw [(inRow _ inside).last.year]
    exact stop_le_last positive (by omega)
  case needed => exact fun bucket member => (firstYear bucket member).2
  case partitions =>
    intro date noOffset after before
    have inside : (date.year - start).toNat / length < buckets.length :=
      number ▸ index_lt_count after before
    refine ⟨⟨_, inside⟩, (inRow.holds_iff noOffset positive after _).mpr rfl, ?_⟩
    intro index holds
    exact Fin.ext ((inRow.holds_iff noOffset positive after index).mp holds)
  case named => exact inRow.labels_nodup positive

end InRow

end

/-- Periods of a positive length cover the years from the first to the last one without gap or
overlap, each under a name of its own; there are none of length zero. -/
theorem values_tile_years (template : String) (startYear endYear : Int32) (length : UInt32) :
    (length = 0 → values template startYear endYear length =
      .error (.invalidQuery template .periodLength)) ∧
    (0 < length → ∃ buckets : List Bucket,
      values template startYear endYear length = .ok (Bucket.inlineData buckets) ∧
        Tiling startYear.toInt endYear.toInt length.toNat buckets) := by
  constructor
  · intro zero
    exact if_pos zero
  · intro isPositive
    have positive : 0 < length.toNat := UInt32.lt_iff_toNat_lt.mp isPositive
    have nonzero : length ≠ 0 := fun zero => absurd isPositive (by simp [zero])
    have startLow := startYear.le_toInt
    have startHigh := startYear.toInt_lt
    have stopLow := endYear.le_toInt
    have stopHigh := endYear.toInt_lt
    have short := length.toNat_lt
    obtain ⟨buckets, made, number, inRow⟩ :=
      @exists_inRow startYear.toInt endYear.toInt length.toNat
      template (by omega) (by omega) (by omega)
    refine ⟨buckets, ?_, inRow.tiling number positive (by omega) (by omega) (by omega)⟩
    exact (if_neg nonzero).trans (bind_of_ok made)

theorem values_tile_three_decades :
    (0 : UInt32) < 10 ∧ ∃ buckets : List Bucket,
      values "hittites" 1600 1620 10 = .ok (Bucket.inlineData buckets) ∧
        Tiling 1600 1620 10 buckets ∧ buckets.length = 3 := by
  have positive : (0 : UInt32) < 10 := by decide
  obtain ⟨buckets, made, tiling⟩ := (values_tile_years "hittites" 1600 1620 10).2 positive
  refine ⟨positive, buckets, made, tiling, ?_⟩
  rw [tiling.number]
  rfl

end FacetedQuery.Period
