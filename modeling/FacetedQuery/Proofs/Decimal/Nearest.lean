import FacetedQuery.Proofs.Decimal.Overflow

/-!
# The number nearest to a decimal

A decimal with a short coefficient and a small exponent is multiplied or divided by a power of ten
that is a double-precision number itself, and all others are rounded as they are.  Either way the
number nearest to a decimal is finite exactly if the decimal lies below the middle between the
greatest number and the power of two behind it.
-/

namespace FacetedQuery.Decimal

open Float.Model (Format UnpackedFloat totalExponent)
open Float.Model.Format (binary64)
open Float.Model.UnpackedFloat (Accuracy Sign pack unpack roundWithAccuracy)

section

variable {sign : Sign} {limit : Int}

/-- What is rounded has at most 53 bits, of which the first has the place it had before or the one
next to it. -/
theorem below_roundWithAccuracy {mantissa bits : Nat} {exponent : Int} {accuracy : Accuracy}
    (short : mantissa < 2 ^ bits) (long : 53 ≤ bits) (reach : exponent + bits ≤ limit + 52)
    (least : -1073 ≤ limit) (most : limit ≤ 971) :
    Below limit (roundWithAccuracy binary64 sign mantissa exponent accuracy) := by
  obtain ⟨places, rfl⟩ : ∃ places : Nat, exponent = 970 - places :=
    ⟨(970 - exponent).toNat, by omega⟩
  rcases roundWithAccuracy_cases sign mantissa places accuracy with
    ⟨-, isZero⟩ | ⟨positive, isFinite⟩
  · rw [isZero]
    trivial
  · have width : mantissa.log2 < bits := by
      by_cases zero : mantissa = 0
      · rw [zero, Nat.log2_zero]
        omega
      · exact (Nat.log2_lt zero).mpr short
    have steps : shiftOf mantissa places = max (mantissa.log2 - 52) (places - 2044) := rfl
    rw [isFinite]
    change (settled mantissa places accuracy).1 < 2 ^ 53 ∧
      (settled mantissa places accuracy).2 ≤ limit
    rw [settled]
    split
    · next small =>
      refine ⟨small, ?_⟩
      dsimp only
      omega
    · refine ⟨by dsimp only; decide, ?_⟩
      dsimp only
      omega

variable {first second : Int} {number other : UnpackedFloat}

theorem Below.mul (below : Below first number) (otherBelow : Below second other)
    (reach : first + second + 54 ≤ limit) (least : -1073 ≤ limit) (most : limit ≤ 971) :
    Below limit (number.mul binary64 other) := by
  cases number with
  | notANumber => cases below
  | infinity => cases below
  | zero =>
      cases other with
      | notANumber => cases otherBelow
      | infinity => cases otherBelow
      | zero => trivial
      | finite => trivial
  | finite sign mantissa exponent =>
      cases other with
      | notANumber => cases otherBelow
      | infinity => cases otherBelow
      | zero => trivial
      | finite otherSign otherMantissa otherExponent =>
          have short : mantissa * otherMantissa < 2 ^ (53 + 53) := by
            rw [Nat.pow_add]
            exact Nat.mul_lt_mul'' below.1 otherBelow.1
          have bound : exponent ≤ first ∧ otherExponent ≤ second := ⟨below.2, otherBelow.2⟩
          exact below_roundWithAccuracy short (by omega) (by omega) least most

theorem Below.div {otherSign : Sign} {mantissa : Nat} {exponent : Int} {positive : 0 < mantissa}
    (below : Below first number) (reach : first - exponent + 1 ≤ limit)
    (least : -1073 ≤ limit) (most : limit ≤ 971) :
    Below limit (number.div binary64 (.finite otherSign mantissa exponent positive)) := by
  cases number with
  | notANumber => cases below
  | infinity => cases below
  | zero => trivial
  | finite sign dividend scale dividendPositive =>
      have bound : dividend < 2 ^ 53 ∧ scale ≤ first := below
      have isDiv : UnpackedFloat.div binary64 (.finite sign dividend scale dividendPositive)
          (.finite otherSign mantissa exponent positive) =
        (let parts := UnpackedFloat.divCore binary64 dividend scale mantissa exponent
        roundWithAccuracy binary64 (sign / otherSign) parts.1 parts.2.1 parts.2.2) := rfl
      rw [isDiv]
      simp only [UnpackedFloat.divCore]
      generalize binary64.targetExponent _ = target
      obtain ⟨steps, isSteps⟩ :
          ∃ steps : Nat, min (scale - exponent) target = scale - exponent - steps :=
        ⟨(scale - exponent - target).toNat, by omega⟩
      have shifted : (scale - exponent - (scale - exponent - (steps : Int))).toNat = steps := by
        omega
      rw [isSteps, shifted]
      have short : dividend <<< steps / mantissa < 2 ^ (53 + steps) := by
        rw [Nat.pow_add, Nat.shiftLeft_eq]
        exact (Nat.div_le_self _ _).trans_lt
          (Nat.mul_lt_mul_of_pos_right bound.1 (Nat.two_pow_pos steps))
      exact below_roundWithAccuracy short (by omega) (by omega) least most

end

/-- A number with at most 53 bits that is shifted by some places to either side. -/
def isModest : UnpackedFloat → Bool
  | .finite _ mantissa exponent _ => mantissa < 2 ^ 53 && -100 ≤ exponent && exponent ≤ 100
  | _ => false

theorem isModest_power (place : Nat)
    (inTable : place < Float.exactlyRepresentablePowersOfTen.size) :
    isModest Float.exactlyRepresentablePowersOfTen[place].toModel.unpack = true := by
  have all : ∀ number ∈ Float.exactlyRepresentablePowersOfTen,
      isModest number.toModel.unpack = true := by
    decide +kernel
  exact all _ (Array.getElem_mem inTable)

theorem exists_of_isModest {number : UnpackedFloat} (modest : isModest number = true) :
    ∃ sign mantissa exponent positive, number = .finite sign mantissa exponent positive ∧
      mantissa < 2 ^ 53 ∧ -100 ≤ exponent ∧ exponent ≤ 100 := by
  cases number with
  | notANumber => cases modest
  | infinity => cases modest
  | zero => cases modest
  | finite sign mantissa exponent positive =>
      have bounds : (mantissa < 2 ^ 53 && -100 ≤ exponent && exponent ≤ 100) = true := modest
      exact ⟨sign, mantissa, exponent, positive, rfl, by simpa [and_assoc] using bounds⟩

section

variable {number power : Float}

theorem isFinite_mul (below : Below 1 number.toModel.unpack)
    (modest : isModest power.toModel.unpack = true) : (number * power).isFinite = true := by
  obtain ⟨sign, mantissa, exponent, positive, isPower, short, -, low⟩ := exists_of_isModest modest
  have within : Below 100 power.toModel.unpack := by
    rw [isPower]
    exact ⟨short, low⟩
  have product := below.mul within (Int.le_refl _) (by decide) (by decide)
  exact (isFinite_pack _).mpr (product.fits (by decide))

theorem isFinite_div (below : Below 1 number.toModel.unpack)
    (modest : isModest power.toModel.unpack = true) : (number / power).isFinite = true := by
  obtain ⟨sign, mantissa, exponent, positive, isPower, -, high, -⟩ := exists_of_isModest modest
  have quotient : Below 102 (number.toModel.unpack.div binary64 power.toModel.unpack) := by
    rw [isPower]
    exact below.div (by omega) (by decide) (by decide)
  exact (isFinite_pack _).mpr (quotient.fits (by decide))

end

/-- A natural number with at most 53 bits is shifted by no more than one place. -/
theorem below_ofNat {number : Nat} (short : number < 2 ^ 53) :
    Below 1 (UnpackedFloat.ofNat binary64 number) := by
  have rounds (sign : Sign) : Below 1 (UnpackedFloat.round binary64 sign number 0) := by
    simp only [UnpackedFloat.round, UnpackedFloat.decreaseExponent]
    generalize (0 - binary64.targetExponent (totalExponent number 0)).toNat = steps
    have shifted : number <<< steps < 2 ^ (53 + steps) := by
      rw [Nat.pow_add, Nat.shiftLeft_eq]
      exact Nat.mul_lt_mul_of_pos_right short (Nat.two_pow_pos steps)
    exact below_roundWithAccuracy shifted (by omega) (by omega) (by decide) (by decide)
  rw [UnpackedFloat.ofNat, UnpackedFloat.ofInt, UnpackedFloat.normalize]
  split
  · next low => exact absurd (compare_lt_iff_lt.mp low) (by omega)
  · trivial
  · exact rounds .positive

theorem below_toFloat {number : Nat} (short : number < 2 ^ 53) :
    Below 1 number.toUInt64.toFloat.toModel.unpack := by
  have same : number.toUInt64.toNat = number :=
    UInt64.toNat_ofNat'.trans (Nat.mod_eq_of_lt (by omega))
  have below : Below 1 (UnpackedFloat.ofUInt64 binary64 number.toUInt64) := by
    rw [UnpackedFloat.ofUInt64, same]
    exact below_ofNat short
  exact below.repack (by decide) (by decide)

/-- A decimal is read as a finite number exactly if it lies below the limit. -/
theorem isFinite_ofScientific {coefficient : Nat} (nonzero : coefficient ≠ 0) (exponent : Int) :
    (Float.ofScientific coefficient (exponent < 0) exponent.natAbs).isFinite = true ↔
      coefficient * 10 ^ exponent.toNat < overflow * 10 ^ (-exponent).toNat := by
  rw [Float.ofScientific]
  -- The short way goes by the table of powers of ten and never comes near the limit.
  split
  · next small =>
    have finite : coefficient * 10 ^ exponent.toNat < overflow * 10 ^ (-exponent).toNat := by
      have power : 10 ^ exponent.toNat ≤ 2 ^ 88 :=
        (Nat.pow_le_pow_right (by decide) (by omega)).trans (by decide : 10 ^ 22 ≤ 2 ^ 88)
      calc coefficient * 10 ^ exponent.toNat < 2 ^ 53 * 2 ^ 88 :=
            Nat.mul_lt_mul_of_lt_of_le small.1 power (by decide)
        _ = 2 ^ (53 + 88) := (Nat.pow_add 2 53 88).symm
        _ ≤ overflow := le_ceiling (by decide)
        _ ≤ overflow * 10 ^ (-exponent).toNat := Nat.le_mul_of_pos_right _ (Nat.pow_pos (by decide))
    have below := below_toFloat small.1
    have modest := isModest_power exponent.natAbs (Nat.lt_succ_of_le small.2)
    refine iff_of_true ?_ finite
    split
    · exact isFinite_div below modest
    · exact isFinite_mul below modest
  · have same : (if decide (exponent < 0) = true then Int.negOfNat exponent.natAbs
        else Int.ofNat exponent.natAbs) = exponent := by
      rw [Int.negOfNat_eq]
      simp only [decide_eq_true_eq, Int.ofNat_eq_natCast]
      split <;> omega
    rw [same]
    exact (isFinite_pack _).trans (fits_ofScientific nonzero exponent)

theorem lt_ten_pow_length_digits (number : Nat) : number < 10 ^ (digits number).length := by
  fun_induction digits number with
  | case1 number low => simpa using low
  | case2 number high induction =>
      rw [List.length_append, Nat.pow_add]
      simp only [List.length_singleton, Nat.pow_one]
      omega

theorem ten_pow_length_digits_le {number : Nat} (nonzero : number ≠ 0) :
    10 ^ ((digits number).length - 1) ≤ number := by
  fun_induction digits number with
  | case1 number low => exact Nat.pos_of_ne_zero nonzero
  | case2 number high induction =>
      have bound := induction (by omega)
      have long : (digits (number / 10)).length = (digits (number / 10)).length - 1 + 1 := by
        have := List.length_pos_iff.mpr (digits_ne_nil (number / 10))
        omega
      rw [List.length_append, List.length_singleton, Nat.add_sub_cancel, long, Nat.pow_succ]
      omega

/-- The number nearest to a decimal is finite exactly if the decimal lies below the limit. -/
theorem isFinite_nearestFloat (coefficient : Nat) (exponent : Int) :
    (nearestFloat coefficient exponent).isFinite = true ↔
      coefficient * 10 ^ exponent.toNat < overflow * 10 ^ (-exponent).toNat := by
  fun_cases nearestFloat coefficient exponent with
  | case1 zero =>
      obtain rfl := beq_iff_eq.mp zero
      refine iff_of_true (by decide +kernel) ?_
      rw [Nat.zero_mul]
      exact Nat.mul_pos (ceiling_pos 970) (Nat.pow_pos (by decide))
  | case2 nonzero place far =>
      have long := ten_pow_length_digits_le (mt beq_iff_eq.mpr nonzero)
      refine iff_of_false (by decide +kernel) (Nat.not_lt.mpr ?_)
      obtain ⟨spare, large, same⟩ : ∃ spare, 342 ≤ spare ∧
          spare + (-exponent).toNat = (digits coefficient).length - 1 + exponent.toNat :=
        ⟨(digits coefficient).length - 1 + exponent.toNat - (-exponent).toNat, by omega, by omega⟩
      calc overflow * 10 ^ (-exponent).toNat
          ≤ 10 ^ spare * 10 ^ (-exponent).toNat := Nat.mul_le_mul_right _ (overflow_le large)
        _ = 10 ^ ((digits coefficient).length - 1) * 10 ^ exponent.toNat := by
            rw [← Nat.pow_add, same, Nat.pow_add]
        _ ≤ coefficient * 10 ^ exponent.toNat := Nat.mul_le_mul_right _ long
  | case3 nonzero place _ near =>
      have whole : exponent.toNat = 0 ∧ (digits coefficient).length ≤ (-exponent).toNat := by omega
      refine iff_of_true (by decide +kernel) ?_
      rw [whole.1, Nat.pow_zero, Nat.mul_one]
      calc coefficient < 10 ^ (digits coefficient).length := lt_ten_pow_length_digits coefficient
        _ ≤ 10 ^ (-exponent).toNat := Nat.pow_le_pow_right (by decide) whole.2
        _ ≤ overflow * 10 ^ (-exponent).toNat := Nat.le_mul_of_pos_left _ (ceiling_pos 970)
  | case4 nonzero => exact isFinite_ofScientific (mt beq_iff_eq.mpr nonzero) exponent

/-- A numeral of a finite number, whose magnitude lies below the limit. -/
def Numeral.InRange (numeral : Numeral) : Prop :=
  numeral.coefficient * 10 ^ numeral.scale.toNat < overflow * 10 ^ (-numeral.scale).toNat

theorem isFinite_toFloat (numeral : Numeral) : numeral.toFloat.isFinite = true ↔
    numeral.InRange := by
  rw [Numeral.InRange, ← isFinite_nearestFloat, Numeral.toFloat]
  split
  · rw [isFinite_neg]
  · rfl

end FacetedQuery.Decimal
