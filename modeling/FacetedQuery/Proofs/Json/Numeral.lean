import FacetedQuery.Json.Reader
import FacetedQuery.Proofs.Calendar.Reading
import Mathlib.Data.List.TakeWhile

/-!
# Numbers in documents

A number ends where no digit, sign, point or mark of an exponent follows, so it is read in front of
whatever ends it as it is read alone.  Integers of 64 bits are read back from their digits; of the
double-precision numbers those are, whose text is read as the number again.
-/

namespace FacetedQuery.Json

open Decimal (digits digits_ne_nil head_digits_ne_zero isDigit_of_mem_digits isNumeralChar
  value_digits)

/-- A text that does not go on with a number. -/
def EndsNumeral (text : List Char) : Prop :=
  ∀ character ∈ text.head?, isNumeralChar character = false

theorem endsNumeral_cons {character : Char} {text : List Char}
    (other : isNumeralChar character = false) : EndsNumeral (character :: text) := by
  simpa [EndsNumeral] using other

theorem EndsNumeral.head_ne {text : List Char} (ends : EndsNumeral text) {character : Char}
    (numeral : isNumeralChar character = true) : text.head? ≠ some character := by
  intro starts
  exact absurd numeral (by simpa using ends character starts)

variable {text row after rest : List Char}

theorem spanDigits_append (text : List Char) (ends : EndsNumeral rest) :
    spanDigits (text ++ rest) = ((spanDigits text).1, (spanDigits text).2 ++ rest) := by
  unfold spanDigits
  induction text with
  | nil =>
      cases rest with
      | nil => rfl
      | cons character rest =>
          have other : character.isDigit = false := by
            have other := ends character rfl
            simp only [isNumeralChar, Bool.or_eq_false_iff] at other
            exact other.1
          simp [other]
  | cons character text induction =>
      cases digit : character.isDigit with
      | false => simp [digit]
      | true => simpa [digit] using induction

/-- Digits that do not start with a zero are taken as far as they go. -/
theorem readWhole?_of_ne_zero (nonzero : text.head? ≠ some '0') :
    readWhole? text = if (spanDigits text).1 = [] then none else some (spanDigits text) := by
  unfold readWhole?
  split
  · exact absurd rfl nonzero
  · split
    · next nothing => simp [nothing]
    · next parts something =>
        rw [if_neg]
        intro nothing
        exact something (spanDigits text).2 (by rw [← nothing])

theorem readWhole?_append (ends : EndsNumeral rest) (read : readWhole? text = some (row, after)) :
    readWhole? (text ++ rest) = some (row, after ++ rest) := by
  cases text with
  | nil => cases read
  | cons character text =>
      by_cases zero : character = '0'
      · subst zero
        obtain ⟨rfl, rfl⟩ := Prod.mk.inj (Option.some.inj read)
        rfl
      · rw [readWhole?_of_ne_zero (by simpa using zero)] at read
        rw [List.cons_append, readWhole?_of_ne_zero (by simpa using zero), ← List.cons_append,
          spanDigits_append _ ends]
        split at read
        · cases read
        · next something =>
          rw [if_neg something, Option.some.inj read]

theorem readFraction?_of_no_point (noPoint : text.head? ≠ some '.') :
    readFraction? text = some (none, text) := by
  unfold readFraction?
  split
  · exact absurd rfl noPoint
  · rfl

theorem readFraction?_append {fraction : Option (List Char)} (ends : EndsNumeral rest)
    (read : readFraction? text = some (fraction, after)) :
    readFraction? (text ++ rest) = some (fraction, after ++ rest) := by
  unfold readFraction? at read
  split at read
  · next text =>
    have span := spanDigits_append text ends
    split at read
    · cases read
    · next row behind something taken =>
      obtain ⟨rfl, rfl⟩ := Prod.mk.inj (Option.some.inj read)
      rw [taken] at span
      simp only [List.cons_append, readFraction?, span]
  · next noPoint =>
    obtain ⟨rfl, rfl⟩ := Prod.mk.inj (Option.some.inj read)
    cases text with
    | nil => exact readFraction?_of_no_point (ends.head_ne (by decide))
    | cons character text =>
        apply readFraction?_of_no_point
        rintro ⟨⟩
        exact noPoint text rfl

/-- The digits of an exponent stand behind its sign, if there is one. -/
def behindSign : List Char → List Char
  | [] => []
  | character :: text => if character = '-' ∨ character = '+' then text else character :: text

theorem readExponentDigits?_eq (text : List Char) :
    readExponentDigits? text =
      if (spanDigits (behindSign text)).1 = [] then none
      else some
        (if text.head? = some '-' then -(Decimal.value (spanDigits (behindSign text)).1 : Int)
        else Decimal.value (spanDigits (behindSign text)).1, (spanDigits (behindSign text)).2) := by
  cases text with
  | nil => rfl
  | cons character text =>
      by_cases minus : character = '-'
      · subst minus
        rcases span : spanDigits text with ⟨_ | ⟨first, row⟩, behind⟩ <;>
          simp [readExponentDigits?, behindSign, span]
      · by_cases plus : character = '+'
        · subst plus
          rcases span : spanDigits text with ⟨_ | ⟨first, row⟩, behind⟩ <;>
            simp [readExponentDigits?, behindSign, span]
        · rcases span : spanDigits (character :: text) with ⟨_ | ⟨first, row⟩, behind⟩ <;>
            simp [readExponentDigits?, behindSign, span, minus, plus]

theorem readExponentDigits?_append {exponent : Int} (ends : EndsNumeral rest)
    (read : readExponentDigits? text = some (exponent, after)) :
    readExponentDigits? (text ++ rest) = some (exponent, after ++ rest) := by
  cases text with
  | nil => cases read
  | cons character text =>
      have behind : behindSign (character :: text ++ rest) =
        behindSign (character :: text) ++ rest := by
        simp only [List.cons_append, behindSign]
        split <;> rfl
      rw [readExponentDigits?_eq] at read ⊢
      rw [behind, spanDigits_append _ ends]
      split at read
      · cases read
      · next something =>
        obtain ⟨rfl, rfl⟩ := Prod.mk.inj (Option.some.inj read)
        rw [if_neg something]
        rfl

theorem readExponent?_of_no_mark (small : text.head? ≠ some 'e') (large : text.head? ≠ some 'E') :
    readExponent? text = some (none, text) := by
  unfold readExponent?
  split
  · exact absurd rfl small
  · exact absurd rfl large
  · rfl

theorem readExponent?_append {exponent : Option Int} (ends : EndsNumeral rest)
    (read : readExponent? text = some (exponent, after)) :
    readExponent? (text ++ rest) = some (exponent, after ++ rest) := by
  unfold readExponent? at read
  split at read
  · next text =>
    obtain ⟨⟨number, behind⟩, made, parts⟩ := Option.map_eq_some_iff.mp read
    obtain ⟨rfl, rfl⟩ := Prod.mk.inj parts
    simp [readExponent?, readExponentDigits?_append ends made]
  · next text =>
    obtain ⟨⟨number, behind⟩, made, parts⟩ := Option.map_eq_some_iff.mp read
    obtain ⟨rfl, rfl⟩ := Prod.mk.inj parts
    simp [readExponent?, readExponentDigits?_append ends made]
  · next small large =>
    obtain ⟨rfl, rfl⟩ := Prod.mk.inj (Option.some.inj read)
    cases text with
    | nil => exact readExponent?_of_no_mark (ends.head_ne (by decide)) (ends.head_ne (by decide))
    | cons character text =>
        apply readExponent?_of_no_mark
        · rintro ⟨⟩
          exact small text rfl
        · rintro ⟨⟩
          exact large text rfl

/-- Reads the parts of a number behind its sign. -/
def readMagnitude? (negative : Bool) (text : List Char) : Option (Numeral × List Char) := do
  let (whole, afterWhole) ← readWhole? text
  let (fraction, afterFraction) ← readFraction? afterWhole
  let (exponent, rest) ← readExponent? afterFraction
  return (⟨negative, whole, fraction, exponent⟩, rest)

theorem readNumeral?_of_no_minus (noMinus : text.head? ≠ some '-') :
    readNumeral? text = readMagnitude? false text := by
  cases text with
  | nil => rfl
  | cons character text =>
      have other : character ≠ '-' := by simpa using noMinus
      simp [readNumeral?, readMagnitude?, other]

theorem readMagnitude?_eq_some {negative : Bool} {numeral : Numeral} :
    readMagnitude? negative text = some (numeral, after) ↔
      ∃ afterWhole afterFraction, negative = numeral.negative ∧
        readWhole? text = some (numeral.whole, afterWhole) ∧
        readFraction? afterWhole = some (numeral.fraction, afterFraction) ∧
        readExponent? afterFraction = some (numeral.exponent, after) := by
  constructor
  · intro read
    obtain ⟨⟨whole, afterWhole⟩, isWhole, read⟩ := Option.bind_eq_some_iff.mp read
    obtain ⟨⟨fraction, afterFraction⟩, isFraction, read⟩ := Option.bind_eq_some_iff.mp read
    obtain ⟨⟨exponent, after⟩, isExponent, same⟩ := Option.bind_eq_some_iff.mp read
    obtain ⟨rfl, rfl⟩ := Prod.mk.inj (Option.some.inj same)
    exact ⟨afterWhole, afterFraction, rfl, isWhole, isFraction, isExponent⟩
  · rintro ⟨afterWhole, afterFraction, rfl, isWhole, isFraction, isExponent⟩
    simp [readMagnitude?, isWhole, isFraction, isExponent]

theorem readMagnitude?_append {negative : Bool} {numeral : Numeral} (ends : EndsNumeral rest)
    (read : readMagnitude? negative text = some (numeral, after)) :
    readMagnitude? negative (text ++ rest) = some (numeral, after ++ rest) := by
  obtain ⟨afterWhole, afterFraction, sign, whole, fraction, exponent⟩ :=
    readMagnitude?_eq_some.mp read
  apply readMagnitude?_eq_some.mpr
  exact ⟨afterWhole ++ rest, afterFraction ++ rest, sign, readWhole?_append ends whole,
    readFraction?_append ends fraction, readExponent?_append ends exponent⟩

/-- A number in front of a text that ends it is the number alone. -/
theorem readNumeral?_append {numeral : Numeral} (ends : EndsNumeral rest)
    (read : readNumeral? text = some (numeral, after)) :
    readNumeral? (text ++ rest) = some (numeral, after ++ rest) := by
  cases text with
  | nil => cases read
  | cons character text =>
      by_cases minus : character = '-'
      · subst minus
        exact readMagnitude?_append ends read
      · have noMinus : ∀ text : List Char, (character :: text).head? ≠ some '-' := by
          simpa using minus
        rw [readNumeral?_of_no_minus (noMinus text)] at read
        rw [List.cons_append, readNumeral?_of_no_minus (noMinus _), ← List.cons_append]
        exact readMagnitude?_append ends read

theorem suffix_of_readWhole? (read : readWhole? text = some (row, after)) : after <:+ text := by
  unfold readWhole? at read
  split at read
  · obtain ⟨rfl, rfl⟩ := Prod.mk.inj (Option.some.inj read)
    exact List.suffix_cons _ _
  · split at read
    · cases read
    · obtain rfl : (spanDigits text).2 = after := by rw [Option.some.inj read]
      exact List.dropWhile_suffix _

theorem suffix_of_readFraction? {fraction : Option (List Char)}
    (read : readFraction? text = some (fraction, after)) : after <:+ text := by
  unfold readFraction? at read
  split at read
  · next text =>
    split at read
    · cases read
    · next row behind something taken =>
      obtain ⟨rfl, rfl⟩ := Prod.mk.inj (Option.some.inj read)
      obtain rfl : (spanDigits text).2 = behind := by rw [taken]
      exact (List.dropWhile_suffix _).trans (List.suffix_cons _ _)
  · obtain ⟨rfl, rfl⟩ := Prod.mk.inj (Option.some.inj read)
    exact List.suffix_rfl

theorem suffix_of_readExponentDigits? {exponent : Int}
    (read : readExponentDigits? text = some (exponent, after)) : after <:+ text := by
  have behind : behindSign text <:+ text := by
    cases text with
    | nil => exact List.suffix_rfl
    | cons character text =>
        simp only [behindSign]
        split
        · exact List.suffix_cons _ _
        · exact List.suffix_rfl
  rw [readExponentDigits?_eq] at read
  split at read
  · cases read
  · obtain ⟨-, rfl⟩ := Prod.mk.inj (Option.some.inj read)
    exact (List.dropWhile_suffix _).trans behind

theorem suffix_of_readExponent? {exponent : Option Int}
    (read : readExponent? text = some (exponent, after)) : after <:+ text := by
  unfold readExponent? at read
  split at read
  · obtain ⟨⟨number, behind⟩, made, parts⟩ := Option.map_eq_some_iff.mp read
    obtain ⟨-, rfl⟩ := Prod.mk.inj parts
    exact (suffix_of_readExponentDigits? made).trans (List.suffix_cons _ _)
  · obtain ⟨⟨number, behind⟩, made, parts⟩ := Option.map_eq_some_iff.mp read
    obtain ⟨-, rfl⟩ := Prod.mk.inj parts
    exact (suffix_of_readExponentDigits? made).trans (List.suffix_cons _ _)
  · obtain ⟨rfl, rfl⟩ := Prod.mk.inj (Option.some.inj read)
    exact List.suffix_rfl

theorem suffix_of_readMagnitude? {negative : Bool} {numeral : Numeral}
    (read : readMagnitude? negative text = some (numeral, after)) : after <:+ text := by
  obtain ⟨afterWhole, afterFraction, -, whole, fraction, exponent⟩ :=
    readMagnitude?_eq_some.mp read
  exact (suffix_of_readExponent? exponent).trans
    ((suffix_of_readFraction? fraction).trans (suffix_of_readWhole? whole))

theorem suffix_of_readNumeral? {numeral : Numeral}
    (read : readNumeral? text = some (numeral, after)) : after <:+ text := by
  by_cases minus : text.head? = some '-'
  · obtain ⟨magnitude, rfl⟩ := List.head?_eq_some_iff.mp minus
    exact (suffix_of_readMagnitude? read).trans (List.suffix_cons _ _)
  · rw [readNumeral?_of_no_minus minus] at read
    exact suffix_of_readMagnitude? read

/-- A number whose text is a numeral that denotes it. -/
def Number.IsSpelt (number : Number) : Prop :=
  ∃ numeral, readNumeral? number.write = some (numeral, []) ∧ numeral.number? = some number

deriving instance DecidableEq for Number

instance (number : Number) : Decidable number.IsSpelt :=
  decidable_of_iff (∃ result ∈ readNumeral? number.write,
      result.2 = [] ∧ result.1.number? = some number) <| by
    constructor
    · rintro ⟨⟨numeral, after⟩, read, rfl, denotes⟩
      exact ⟨numeral, read, denotes⟩
    · rintro ⟨numeral, read, denotes⟩
      exact ⟨(numeral, []), read, rfl, denotes⟩

/-- Digits without a leading zero are an integer without fraction and exponent. -/
theorem readMagnitude?_digits (negative : Bool) (number : Nat) :
    readMagnitude? negative (digits number) = some (⟨negative, digits number, none, none⟩, []) := by
  have whole : readWhole? (digits number) = some (digits number, []) := by
    by_cases positive : 0 < number
    · have digit : ∀ character ∈ digits number, character.isDigit = true :=
        fun _ => isDigit_of_mem_digits
      have span : spanDigits (digits number) = (digits number, []) := by
        unfold spanDigits
        rw [List.takeWhile_eq_self_iff.mpr digit, List.dropWhile_eq_nil_iff.mpr digit]
      rw [readWhole?_of_ne_zero (head_digits_ne_zero positive), span, if_neg (digits_ne_nil number)]
    · obtain rfl : number = 0 := by omega
      have zero : digits 0 = ['0'] := by simp [digits, Decimal.digitChar]
      rw [zero]
      rfl
  exact readMagnitude?_eq_some.mpr ⟨[], [], rfl, whole, rfl, rfl⟩

theorem isSpelt_natural {value : Nat} (fits : value < Decimal.unsignedLimit) :
    (Number.natural value).IsSpelt := by
  refine ⟨⟨false, digits value, none, none⟩, ?_, ?_⟩
  · have noMinus : (digits value).head? ≠ some '-' := by
      intro starts
      exact absurd (isDigit_of_mem_digits (List.mem_of_head? starts)) (by decide)
    exact (readNumeral?_of_no_minus noMinus).trans (readMagnitude?_digits false value)
  · simp [Numeral.number?, value_digits, fits]

theorem isSpelt_negative {magnitude : Nat} (positive : 0 < magnitude)
    (fits : magnitude ≤ Decimal.signedLimit) : (Number.negative magnitude).IsSpelt := by
  refine ⟨⟨true, digits magnitude, none, none⟩, readMagnitude?_digits true magnitude, ?_⟩
  simp [Numeral.number?, value_digits, positive, fits]

end FacetedQuery.Json
