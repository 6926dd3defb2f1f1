import FacetedQuery.Proofs.Decimal.Digits

/-!
# Dates and their texts

A number is read back from its digits, whatever zeros stand before them, and a date is read back
from its text.  Hence dates with the same text are the same.
-/

namespace FacetedQuery

namespace Decimal

variable {row : List Char}

theorem value_zeros_append (count : Nat) (row : List Char) :
    value (List.replicate count '0' ++ row) = value row := by
  induction count with
  | zero => rfl
  | succ count induction => exact induction

theorem isDigit_of_mem_zeros_append {count : Nat} {character : Char}
    (digit : ∀ other ∈ row, other.isDigit = true)
    (member : character ∈ List.replicate count '0' ++ row) : character.isDigit = true := by
  rcases List.mem_append.mp member with zero | member
  · rw [List.eq_of_mem_replicate zero]
    decide
  · exact digit character member

/-- A number but zero is written without a leading zero. -/
theorem head_digits_ne_zero {number : Nat} (positive : 0 < number) :
    (digits number).head? ≠ some '0' := by
  fun_induction digits number with
  | case1 number low =>
      intro zero
      have isZero : digitChar number = '0' := by simpa using zero
      have nothing := digitValue_digitChar low
      rw [isZero] at nothing
      have : digitValue '0' = 0 := by decide
      omega
  | case2 number high induction =>
      obtain ⟨first, rest, more⟩ := List.exists_cons_of_ne_nil (digits_ne_nil (number / 10))
      have shown := induction (by omega)
      rw [more] at shown ⊢
      exact shown

theorem readNatural?_zeros_digits (count number : Nat) :
    readNatural? (List.replicate count '0' ++ digits number) = some number := by
  have digit : (List.replicate count '0' ++ digits number).all Char.isDigit = true :=
    List.all_eq_true.mpr fun _ =>
      isDigit_of_mem_zeros_append fun _ => isDigit_of_mem_digits
  have nonempty : (List.replicate count '0' ++ digits number).isEmpty = false := by
    simp [digits_ne_nil]
  simp [readNatural?, digit, nonempty, value_zeros_append, value_digits]

end Decimal

namespace Calendar.Date

open Decimal (digits pad)

/-- Whatever follows the digits of a year does not go on with a digit. -/
def Ends (rest : List Char) : Prop :=
  ∀ character, rest.head? = some character → character.isDigit = false

theorem isDigit_of_mem_row {number : Nat} {character : Char}
    (member : character ∈ pad 4 (digits number)) : character.isDigit = true :=
  Decimal.isDigit_of_mem_zeros_append (fun _ => Decimal.isDigit_of_mem_digits) member

theorem length_pad (width : Nat) (row : List Char) : (pad width row).length =
    max width row.length := by
  simp [pad]
  omega

theorem head_row_ne_zero {number : Nat} (long : 4 < (pad 4 (digits number)).length) :
    (pad 4 (digits number)).head? ≠ some '0' := by
  rw [length_pad] at long
  have noZeros : 4 - (digits number).length = 0 := by omega
  have positive : 0 < number := by
    rcases Nat.eq_zero_or_pos number with rfl | positive
    · simp [digits] at long
    · exact positive
  simpa [pad, noZeros] using Decimal.head_digits_ne_zero positive

theorem readYearDigits?_row (number : Nat) {rest : List Char} (ends : Ends rest) :
    readYearDigits? (pad 4 (digits number) ++ rest) = some (number, rest) := by
  have stops : rest.takeWhile Char.isDigit = [] ∧ rest.dropWhile Char.isDigit = rest := by
    cases rest with
    | nil => exact ⟨rfl, rfl⟩
    | cons character rest => simp [ends character rfl]
  have row : (pad 4 (digits number) ++ rest).takeWhile Char.isDigit = pad 4 (digits number) := by
    rw [List.takeWhile_append_of_pos fun _ => isDigit_of_mem_row, stops.1, List.append_nil]
  have after : (pad 4 (digits number) ++ rest).dropWhile Char.isDigit = rest := by
    rw [List.dropWhile_append_of_pos fun _ => isDigit_of_mem_row, stops.2]
  have enough : ¬(pad 4 (digits number)).length < 4 := by
    rw [length_pad]
    omega
  have value : Decimal.value (pad 4 (digits number)) = number := by
    rw [pad, Decimal.value_zeros_append, Decimal.value_digits]
  have accepted : ¬(decide ((pad 4 (digits number)).length < 4) ||
      (decide (4 < (pad 4 (digits number)).length) &&
        (pad 4 (digits number)).head? == some '0')) = true := by
    intro refused
    simp only [Bool.or_eq_true, Bool.and_eq_true, decide_eq_true_eq, beq_iff_eq] at refused
    rcases refused with short | ⟨long, zero⟩
    · exact enough short
    · exact head_row_ne_zero long zero
  simp only [readYearDigits?, row, after, value]
  rw [if_neg accepted]

/-- A year is read back, whatever follows its digits. -/
theorem readYear?_renderYear (year : Int) {rest : List Char} (ends : Ends rest) :
    readYear? (renderYear year ++ rest) = some (year, rest) := by
  unfold renderYear
  by_cases negative : year < 0
  · have magnitude : (year.natAbs : Int) = -year := by omega
    simp [negative, readYear?, readYearDigits?_row _ ends, magnitude]
  · have magnitude : (year.natAbs : Int) = year := by omega
    have noSign : ∀ more, pad 4 (digits year.natAbs) ++ rest ≠ '-' :: more := by
      intro more equality
      have first : '-' ∈ pad 4 (digits year.natAbs) := by
        have nonempty : pad 4 (digits year.natAbs) ≠ [] := by
          intro nothing
          have length := length_pad 4 (digits year.natAbs)
          rw [nothing] at length
          simp at length
          omega
        obtain ⟨head, tail, isRow⟩ := List.exists_cons_of_ne_nil nonempty
        rw [isRow] at equality ⊢
        simp_all
      exact absurd (isDigit_of_mem_row first) (by decide)
    simp only [negative, if_false]
    unfold readYear?
    split
    · next equality => exact absurd equality (noSign _)
    · simp [readYearDigits?_row _ ends, magnitude]

theorem renderTwo_eq {number : Nat} (low : number < 100) :
    renderTwo number = [Decimal.digitChar (number / 10), Decimal.digitChar (number % 10)] := by
  unfold renderTwo
  rw [digits]
  by_cases single : number < 10
  · have tens : number / 10 = 0 := by omega
    have ones : number % 10 = number := by omega
    rw [if_pos single, tens, ones]
    rfl
  · have tens : number / 10 < 10 := by omega
    rw [if_neg single, digits, if_pos tens]
    rfl

theorem readTwo?_renderTwo {number : Nat} (low : number < 100) (rest : List Char) :
    readTwo? (renderTwo number ++ rest) = some (number, rest) := by
  have tens : number / 10 < 10 := by omega
  have ones : number % 10 < 10 := by omega
  have value : number / 10 * 10 + number % 10 = number := by omega
  simp [renderTwo_eq low, readTwo?, Decimal.isDigit_digitChar tens, Decimal.isDigit_digitChar ones,
    Decimal.value, Decimal.valueFrom, Decimal.digitValue_digitChar tens,
    Decimal.digitValue_digitChar ones, value]

theorem readClock?_render {minutes : Nat} (bounded : minutes ≤ greatestOffset) :
    readClock? (renderTwo (minutes / 60) ++ ':' :: renderTwo (minutes % 60)) = some minutes := by
  have limit : greatestOffset = 840 := rfl
  have hours : minutes / 60 < 100 := by omega
  have minute : minutes % 60 < 60 := by omega
  have total : minutes / 60 * 60 + minutes % 60 = minutes := by omega
  have read := readTwo?_renderTwo (Nat.lt_trans minute (by decide)) []
  rw [List.append_nil] at read
  simp [readClock?, readTwo?_renderTwo hours, read, minute, total, bounded]

/-- An offset is read back. -/
theorem readOffset?_renderOffset {offset : Option Int}
    (bounded : (offset.getD 0).natAbs ≤ greatestOffset) :
    readOffset? (renderOffset offset) = some offset := by
  cases offset with
  | none => rfl
  | some minutes =>
      have read := readClock?_render bounded
      simp only [Option.getD_some] at read
      by_cases zero : minutes = 0
      · simp [renderOffset, zero, readOffset?]
      · by_cases negative : minutes < 0
        · have magnitude : (minutes.natAbs : Int) = -minutes := by omega
          simp only [renderOffset, zero, beq_iff_eq, negative, if_false, if_true]
          simp [readOffset?, read, magnitude]
        · have magnitude : (minutes.natAbs : Int) = minutes := by omega
          simp only [renderOffset, zero, beq_iff_eq, negative, if_false]
          simp [readOffset?, read, magnitude]

theorem ofParts?_eq_some {year : Int} {month day : Nat} {offset : Option Int} {date : Date} :
    ofParts? year month day offset = some date ↔
      date.year = year ∧ date.month = month ∧ date.day = day ∧ date.offset = offset := by
  unfold ofParts?
  constructor
  · intro made
    split at made
    · cases made
      exact ⟨rfl, rfl, rfl, rfl⟩
    · cases made
  · rintro ⟨rfl, rfl, rfl, rfl⟩
    rw [dif_pos date.wellFormed]

theorem ofParts?_self (date : Date) :
    ofParts? date.year date.month date.day date.offset = some date :=
  ofParts?_eq_some.mpr ⟨rfl, rfl, rfl, rfl⟩

/-- The bounds of the parts of a date. -/
structure Bounds (date : Date) : Prop where
  month : 1 ≤ date.month ∧ date.month ≤ 12
  day : 1 ≤ date.day ∧ date.day ≤ daysInMonth date.year date.month
  offset : (date.offset.getD 0).natAbs ≤ greatestOffset
  second : inSecondRange date.second = true

theorem bounds (date : Date) : Bounds date := by
  have wellFormed := date.wellFormed
  simp only [isDate, Bool.and_eq_true, decide_eq_true_eq] at wellFormed
  obtain ⟨⟨⟨first, last⟩, offset⟩, second⟩ := wellFormed
  refine ⟨?_, ⟨first, last⟩, offset, second⟩
  have nonzero : daysInMonth date.year date.month ≠ 0 := by omega
  unfold daysInMonth at nonzero
  split at nonzero <;> omega

theorem daysInMonth_le (year : Int) (month : Nat) : daysInMonth year month ≤ 31 := by
  unfold daysInMonth
  split <;> first | omega | (split <;> omega)

theorem ends_hyphen (rest : List Char) : Ends ('-' :: rest) := by
  intro character first
  cases first
  decide

theorem readChars?_renderChars (date : Date) : readChars? date.renderChars = some date := by
  obtain ⟨⟨_, month⟩, ⟨_, day⟩, offset, _⟩ := date.bounds
  have few := daysInMonth_le date.year date.month
  have year := readYear?_renderYear date.year (ends_hyphen (renderTwo date.month ++
    '-' :: renderTwo date.day ++ renderOffset date.offset))
  have months := @readTwo?_renderTwo date.month (by omega) ('-' :: renderTwo date.day ++
    renderOffset date.offset)
  have days := @readTwo?_renderTwo date.day (by omega) (renderOffset date.offset)
  simp only [List.append_assoc, List.cons_append] at year months days
  simp only [readChars?, renderChars, List.append_assoc, List.cons_append, year, months, days,
    dropHyphen?, readOffset?_renderOffset offset, Option.bind_eq_bind, Option.bind_some,
    ofParts?_self]

theorem read?_render (date : Date) : read? date.render = some date := by
  rw [read?, render, String.toList_ofList, readChars?_renderChars]

theorem render_injective {first second : Date} (same : first.render = second.render) :
    first = second := by
  apply Option.some.inj
  rw [← read?_render first, ← read?_render second, same]

end Calendar.Date

end FacetedQuery
