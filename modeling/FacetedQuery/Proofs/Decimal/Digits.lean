import FacetedQuery.Calendar.Date
import FacetedQuery.Decimal.Notation
import FacetedQuery.Text.Blank

/-!
# Digits

A number is read back from its digits, and nothing but digits, signs and letters stands in the
notations of numbers and dates.
-/

namespace FacetedQuery.Decimal

theorem isDigit_digitChar {digit : Nat} (low : digit < 10) : (digitChar digit).isDigit = true := by
  have all : ∀ digit < 10, (digitChar digit).isDigit = true := by decide
  exact all digit low

theorem digitValue_digitChar {digit : Nat} (low : digit < 10) :
    digitValue (digitChar digit) = digit := by
  have all : ∀ digit < 10, digitValue (digitChar digit) = digit := by decide
  exact all digit low

theorem isBlank_of_isDigit {character : Char} (digit : character.isDigit = true) :
    Text.isBlank character = false := by
  have range : 48 ≤ character.toNat ∧ character.toNat ≤ 57 := by
    simpa [Char.isDigit, UInt32.le_iff_toNat_le] using digit
  simp only [Text.isBlank, Bool.or_eq_false_iff, Bool.and_eq_false_iff, decide_eq_false_iff_not,
    beq_eq_false_iff_ne]
  omega

theorem isDigit_of_mem_digits {number : Nat} {character : Char}
    (member : character ∈ digits number) : character.isDigit = true := by
  fun_induction digits number with
  | case1 number low =>
      obtain rfl : character = digitChar number := by simpa using member
      exact isDigit_digitChar low
  | case2 number high induction =>
      rcases List.mem_append.mp member with member | member
      · exact induction member
      · obtain rfl : character = digitChar (number % 10) := by simpa using member
        exact isDigit_digitChar (Nat.mod_lt number (by decide))

theorem digits_ne_nil (number : Nat) : digits number ≠ [] := by
  rw [digits]
  split <;> simp

theorem value_digits (number : Nat) : value (digits number) = number := by
  fun_induction digits number with
  | case1 number low => simp [value, valueFrom, digitValue_digitChar low]
  | case2 number high induction =>
      have split : value (digits (number / 10) ++ [digitChar (number % 10)]) =
          value (digits (number / 10)) * 10 + digitValue (digitChar (number % 10)) := by
        simp [value, valueFrom, List.foldl_append]
      rw [split, induction, digitValue_digitChar (Nat.mod_lt number (by decide))]
      omega

/-- A number of 64 bits is read back from its digits. -/
theorem readUnsigned?_digits {number : Nat} (fits : number < unsignedLimit) :
    readUnsigned? (digits number) = some number := by
  have digit : ∀ character ∈ digits number, character.isDigit = true :=
    fun _ => isDigit_of_mem_digits
  have noSign : ∀ rest, digits number ≠ '+' :: rest := fun rest equality =>
    absurd (digit '+' (by simp [equality])) (by decide)
  unfold readUnsigned?
  split
  · next equality => exact absurd equality (noSign _)
  · have all : (digits number).all Char.isDigit = true := List.all_eq_true.mpr digit
    have nonempty : (digits number).isEmpty = false := by simpa using digits_ne_nil number
    simp [readNatural?, all, nonempty, value_digits, fits]

variable {text more : List Char}

/-- The characters that make up numbers. -/
def isNumeralChar (character : Char) : Bool :=
  character.isDigit || ['-', '+', '.', 'e', 'E'].contains character

/-- A text of the characters that make up numbers. -/
def IsNumeric (text : List Char) : Prop :=
  ∀ character ∈ text, isNumeralChar character = true

theorem isNumeric_nil : IsNumeric [] :=
  nofun

theorem IsNumeric.cons {character : Char} (numeral : isNumeralChar character = true)
    (rest : IsNumeric text) : IsNumeric (character :: text) :=
  List.forall_mem_cons.mpr ⟨numeral, rest⟩

theorem IsNumeric.append (first : IsNumeric text) (second : IsNumeric more) :
    IsNumeric (text ++ more) :=
  List.forall_mem_append.mpr ⟨first, second⟩

theorem IsNumeric.sublist {part : List Char} (whole : IsNumeric text)
    (inside : ∀ character ∈ part, character ∈ text) : IsNumeric part :=
  fun character member => whole character (inside character member)

theorem isNumeric_digits (number : Nat) : IsNumeric (digits number) := by
  intro character member
  simp [isNumeralChar, isDigit_of_mem_digits member]

theorem isNumeric_zeros (count : Nat) : IsNumeric (List.replicate count '0') := by
  intro character member
  rw [List.eq_of_mem_replicate member]
  decide

theorem isNumeric_positional {whole : List Char} (numeric : IsNumeric whole)
    (number : ScaledDecimal) : IsNumeric (positional whole number) := by
  have row := isNumeric_digits number.coefficient
  simp only [positional]
  split
  · exact .cons (by decide) (.cons (by decide) ((isNumeric_zeros _).append row))
  · split
    · exact (row.sublist fun _ => List.mem_of_mem_take).append
        (.cons (by decide) (row.sublist fun _ => List.mem_of_mem_drop))
    · exact (row.append (isNumeric_zeros _)).append numeric

theorem isNumeric_scientific (number : ScaledDecimal) : IsNumeric (scientific number) := by
  have row := isNumeric_digits number.coefficient
  have mark : ∀ negative : Prop, ∀ [Decidable negative],
      IsNumeric (if negative then ['e', '-'] else ['e', '+']) := by
    intro negative _
    split <;> exact .cons (by decide) (.cons (by decide) isNumeric_nil)
  simp only [scientific]
  split
  · exact isNumeric_nil
  · next digit taken =>
    rw [taken] at row
    exact (row.append (mark _)).append (isNumeric_digits _)
  · next digit fraction _ taken =>
    rw [taken] at row
    obtain ⟨head, tail⟩ := List.forall_mem_cons.mp row
    exact .cons head (.cons (by decide) ((IsNumeric.append tail (mark _)).append
      (isNumeric_digits _)))

theorem IsNumeric.signed (numeric : IsNumeric text) (negative : Bool) :
    IsNumeric (Decimal.signed negative text) := by
  cases negative with
  | false => exact numeric
  | true => exact .cons (by decide) numeric

/-- The mixed notation of a finite number consists of the characters of numbers. -/
theorem isNumeric_mixed {value : Float} (written : mixed? value = some text) : IsNumeric text := by
  unfold mixed? at written
  split at written
  · cases written
  · cases written
  · cases written
    have zero : IsNumeric ['0', '.', '0'] := by unfold IsNumeric; decide
    exact zero.signed _
  · cases written
    apply IsNumeric.signed
    split
    · apply isNumeric_positional
      exact .cons (by decide) (.cons (by decide) isNumeric_nil)
    · exact isNumeric_scientific _

/-- A text without an opening bracket. -/
def Bare (text : List Char) : Prop :=
  '<' ∉ text

instance (text : List Char) : Decidable (Bare text) :=
  inferInstanceAs (Decidable ('<' ∉ text))

theorem Bare.append (first : Bare text) (second : Bare more) : Bare (text ++ more) := by
  simpa [Bare] using ⟨first, second⟩

theorem Bare.cons {character : Char} (plain : character ≠ '<') (rest : Bare text) :
    Bare (character :: text) := by
  simpa [Bare] using ⟨Ne.symm plain, rest⟩

theorem IsNumeric.bare (numeric : IsNumeric text) : Bare text :=
  fun member => absurd (numeric '<' member) (by decide)

theorem bare_digits (number : Nat) : Bare (digits number) :=
  (isNumeric_digits number).bare

theorem Bare.signed (bare : Bare text) (negative : Bool) : Bare (Decimal.signed negative text) := by
  cases negative with
  | false => exact bare
  | true => exact .cons (by decide) bare

theorem bare_plain (number : Float) : Bare (plain number).toList := by
  unfold plain
  rw [String.toList_ofList]
  split
  · decide
  · exact Bare.signed (by decide) _
  · exact Bare.signed (by decide) _
  · exact ((isNumeric_positional isNumeric_nil _).signed _).bare

theorem Bare.pad (bare : Bare text) (width : Nat) : Bare (pad width text) :=
  (isNumeric_zeros _).bare.append bare

end FacetedQuery.Decimal

namespace FacetedQuery.Calendar.Date

open Decimal (Bare bare_digits)

theorem bare_renderYear (year : Int) : Bare (renderYear year) := by
  unfold renderYear
  split
  · exact .cons (by decide) ((bare_digits _).pad 4)
  · exact (bare_digits _).pad 4

theorem bare_renderTwo (number : Nat) : Bare (renderTwo number) :=
  (bare_digits number).pad 2

theorem bare_renderOffset (offset : Option Int) : Bare (renderOffset offset) := by
  unfold renderOffset
  split
  · simp [Bare]
  · split
    · decide
    · refine .cons ?_ ((bare_renderTwo _).append (.cons (by decide) (bare_renderTwo _)))
      split <;> decide

theorem bare_render (date : Date) : Bare date.render.toList := by
  unfold render renderChars
  rw [String.toList_ofList]
  exact (((bare_renderYear _).append (.cons (by decide) (bare_renderTwo _))).append
    (.cons (by decide) (bare_renderTwo _))).append (bare_renderOffset _)

end FacetedQuery.Calendar.Date
