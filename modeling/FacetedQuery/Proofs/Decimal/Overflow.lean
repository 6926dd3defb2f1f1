import FacetedQuery.Decimal.Reading
import FacetedQuery.Proofs.Decimal.Digits
import FacetedQuery.Proofs.Decimal.Finite
import Mathlib.Order.Nat

/-!
# Numbers beyond the greatest

A number is rounded to 53 bits, and then it may have to be shifted once more.  So it is rounded to
infinity exactly from the middle on between the greatest double-precision number and the power of
two behind it.  Decimals are scaled to a product or a quotient of natural numbers that is rounded
once.
-/

namespace FacetedQuery.Decimal

open Float.Model (Format UnpackedFloat totalExponent)
open Float.Model.Format (binary64)
open Float.Model.UnpackedFloat
  (Accuracy ExtendedMantissa Sign roundWithAccuracy shiftToTargetExponent)

/-- The middle between the greatest number and the power of two behind it, in units of
`2 ^ (970 - places)`. -/
@[irreducible]
def ceiling (places : Nat) : Nat :=
  (2 ^ 54 - 1) * 2 ^ places

theorem le_ceiling {bits places : Nat} (short : bits ≤ 53 + places) :
    2 ^ bits ≤ ceiling places := by
  rw [ceiling]
  calc 2 ^ bits ≤ 2 ^ (53 + places) := Nat.pow_le_pow_right (by decide) short
    _ = 2 ^ 53 * 2 ^ places := Nat.pow_add 2 53 places
    _ ≤ (2 ^ 54 - 1) * 2 ^ places := Nat.mul_le_mul_right _ (by decide)

theorem ceiling_le {bits places : Nat} (long : 54 + places ≤ bits) : ceiling places ≤ 2 ^ bits := by
  rw [ceiling]
  calc (2 ^ 54 - 1) * 2 ^ places ≤ 2 ^ 54 * 2 ^ places := Nat.mul_le_mul_right _ (by decide)
    _ = 2 ^ (54 + places) := (Nat.pow_add 2 54 places).symm
    _ ≤ 2 ^ bits := Nat.pow_le_pow_right (by decide) long

theorem ceiling_pos (places : Nat) : 0 < ceiling places :=
  (Nat.two_pow_pos _).trans_le (le_ceiling (Nat.zero_le _))

theorem ceiling_mul (places steps : Nat) : ceiling places * 2 ^ steps =
    ceiling (places + steps) := by
  rw [ceiling, ceiling, Nat.pow_add, Nat.mul_assoc]

section

variable (extended : ExtendedMantissa) (steps : Nat)

theorem shift_succ : extended >>> (steps + 1) = (extended >>> steps).shiftRightOne :=
  rfl

theorem mantissa_shift : (extended >>> steps).mantissa = extended.mantissa / 2 ^ steps := by
  induction steps with
  | zero => exact (Nat.div_one _).symm
  | succ steps induction =>
      rw [shift_succ, ExtendedMantissa.shiftRightOne, induction,
        Nat.div_div_eq_div_mul, Nat.pow_succ]

theorem roundBit_shift :
    (extended >>> (steps + 1)).roundBit = (extended.mantissa / 2 ^ steps % 2 != 0) := by
  rw [shift_succ, ExtendedMantissa.shiftRightOne, mantissa_shift]

theorem roundedMantissa_bounds : extended.mantissa ≤ extended.roundedMantissa ∧
    extended.roundedMantissa ≤ extended.mantissa + 1 := by
  obtain ⟨mantissa, roundBit, stickyBit⟩ := extended
  cases roundBit <;> cases stickyBit <;>
    simp [ExtendedMantissa.roundedMantissa, ExtendedMantissa.accuracy, Accuracy.roundToNearestEven]
  omega

/-- An odd mantissa is rounded up if the bit behind it is set. -/
theorem roundedMantissa_of_odd (odd : extended.mantissa % 2 = 1) :
    extended.roundedMantissa = extended.mantissa + extended.roundBit.toNat := by
  obtain ⟨mantissa, roundBit, stickyBit⟩ := extended
  cases roundBit <;> cases stickyBit <;>
    simp_all [ExtendedMantissa.roundedMantissa, ExtendedMantissa.accuracy,
      Accuracy.roundToNearestEven]

theorem mantissa_of (mantissa : Nat) (accuracy : Accuracy) :
    (ExtendedMantissa.ofMantissaAndAccuracy mantissa accuracy).mantissa = mantissa := by
  cases accuracy with
  | exact => rfl
  | inexact order => cases order <;> rfl

end

section

variable {mantissa places : Nat}

theorem targetExponent_eq (mantissa : Nat) (exponent : Int) :
    binary64.targetExponent (totalExponent mantissa exponent) =
      max ((mantissa.log2 : Int) + 1 + exponent - 53) (-1074) :=
  rfl

/-- How far a mantissa is shifted. -/
def shiftOf (mantissa places : Nat) : Nat :=
  max (mantissa.log2 - 52) (places - 2044)

theorem shift_first (mantissa places : Nat) (accuracy : Accuracy) :
    shiftToTargetExponent binary64 mantissa (970 - places) accuracy =
      (ExtendedMantissa.ofMantissaAndAccuracy mantissa accuracy >>> shiftOf mantissa places,
        970 - places + (shiftOf mantissa places : Int)) := by
  have steps : (binary64.targetExponent (totalExponent mantissa (970 - places)) -
      (970 - places)).toNat = shiftOf mantissa places := by
    rw [targetExponent_eq, shiftOf]
    omega
  simp only [shiftToTargetExponent, UnpackedFloat.shiftToExponent, steps]

/-- A mantissa that is short enough is left as it is. -/
theorem shift_short {exponent : Int} (short : mantissa < 2 ^ 53) (least : -1074 ≤ exponent) :
    shiftToTargetExponent binary64 mantissa exponent .exact =
      (⟨mantissa, false, false⟩, exponent) := by
  have bits : mantissa.log2 ≤ 52 := by
    by_cases zero : mantissa = 0
    · simp [zero]
    · exact Nat.le_of_lt_succ ((Nat.log2_lt zero).mpr short)
  have steps : (binary64.targetExponent (totalExponent mantissa exponent) - exponent).toNat =
    0 := by
    rw [targetExponent_eq]
    omega
  rw [shiftToTargetExponent, UnpackedFloat.shiftToExponent, steps]
  simp
  rfl

theorem shift_long {exponent : Int} (least : -1074 ≤ exponent) :
    shiftToTargetExponent binary64 (2 ^ 53) exponent .exact =
      (⟨2 ^ 52, false, false⟩, exponent + 1) := by
  have steps : (binary64.targetExponent (totalExponent (2 ^ 53) exponent) - exponent).toNat =
    1 := by
    rw [targetExponent_eq, Nat.log2_two_pow]
    omega
  rw [shiftToTargetExponent, UnpackedFloat.shiftToExponent, steps]
  rfl

/-- A mantissa that was shifted and rounded. -/
def rounded (mantissa places : Nat) (accuracy : Accuracy) : Nat :=
  (ExtendedMantissa.ofMantissaAndAccuracy mantissa accuracy >>>
    shiftOf mantissa places).roundedMantissa

variable {accuracy : Accuracy}

theorem rounded_bounds : mantissa / 2 ^ shiftOf mantissa places ≤ rounded mantissa places accuracy ∧
    rounded mantissa places accuracy ≤ mantissa / 2 ^ shiftOf mantissa places + 1 := by
  have bounds := roundedMantissa_bounds
    (ExtendedMantissa.ofMantissaAndAccuracy mantissa accuracy >>> shiftOf mantissa places)
  rwa [mantissa_shift, mantissa_of] at bounds

theorem lt_two_pow_shiftOf (mantissa places : Nat) :
    mantissa < 2 ^ 53 * 2 ^ shiftOf mantissa places := by
  rw [← Nat.pow_add]
  refine Nat.lt_log2_self.trans_le (Nat.pow_le_pow_right (by decide) ?_)
  rw [shiftOf]
  omega

theorem rounded_le : rounded mantissa places accuracy ≤ 2 ^ 53 := by
  have short : mantissa / 2 ^ shiftOf mantissa places < 2 ^ 53 :=
    Nat.div_lt_of_lt_mul (by rw [Nat.mul_comm]; exact lt_two_pow_shiftOf mantissa places)
  have bounds := @rounded_bounds mantissa places accuracy
  omega

/-- The mantissa and the exponent of a number that was rounded. -/
def settled (mantissa places : Nat) (accuracy : Accuracy) : Nat × Int :=
  let exponent : Int := 970 - places + (shiftOf mantissa places : Int)
  if rounded mantissa places accuracy < 2 ^ 53 then (rounded mantissa places accuracy, exponent)
  else (2 ^ 52, exponent + 1)

theorem shift_again (mantissa places : Nat) (accuracy : Accuracy) :
    let first := shiftToTargetExponent binary64 mantissa (970 - places) accuracy
    let final := shiftToTargetExponent binary64 first.1.roundedMantissa first.2 .exact
    (final.1.mantissa, final.2) = settled mantissa places accuracy := by
  have least : (-1074 : Int) ≤ 970 - places + (shiftOf mantissa places : Int) := by
    rw [shiftOf]
    omega
  have isRounded : (ExtendedMantissa.ofMantissaAndAccuracy mantissa accuracy >>>
      shiftOf mantissa places).roundedMantissa = rounded mantissa places accuracy := rfl
  dsimp only
  rw [shift_first]
  dsimp only
  rw [isRounded, settled]
  rcases rounded_le.lt_or_eq with short | long
  · rw [shift_short short least, if_pos short]
  · rw [long, shift_long least, if_neg (Nat.lt_irrefl _)]

/-- A number that was rounded is zero, or it has the settled mantissa and exponent. -/
theorem roundWithAccuracy_cases (sign : Sign) (mantissa places : Nat) (accuracy : Accuracy) :
    (settled mantissa places accuracy).1 = 0 ∧
        roundWithAccuracy binary64 sign mantissa (970 - places) accuracy = .zero sign ∨
      ∃ positive, roundWithAccuracy binary64 sign mantissa (970 - places) accuracy =
        .finite sign (settled mantissa places accuracy).1 (settled mantissa places accuracy).2
          positive := by
  rw [← shift_again]
  apply (Nat.eq_zero_or_pos _).imp
  · exact fun zero => ⟨zero, dif_pos zero⟩
  · exact fun positive => ⟨positive, dif_neg positive.ne'⟩

theorem fits_iff_settled (sign : Sign) :
    Fits (roundWithAccuracy binary64 sign mantissa (970 - places) accuracy) ↔
      (settled mantissa places accuracy).1 = 0 ∨ (settled mantissa places accuracy).2 ≤ 971 := by
  rcases roundWithAccuracy_cases sign mantissa places accuracy with
    ⟨zero, isZero⟩ | ⟨positive, isFinite⟩
  · rw [isZero]
    exact iff_of_true trivial (.inl zero)
  · rw [isFinite, or_iff_right (Nat.pos_iff_ne_zero.mp positive)]
    rfl

/-- A mantissa with one bit more than fits is rounded up exactly if all of its bits are set but the
last ones. -/
theorem rounded_lt_iff (long : shiftOf mantissa places = places + 1) :
    rounded mantissa places accuracy < 2 ^ 53 ↔ mantissa < ceiling places := by
  have halved : mantissa / 2 ^ (places + 1) = mantissa / 2 ^ places / 2 := by
    rw [Nat.pow_succ, Nat.div_div_eq_div_mul]
  have bounds := @rounded_bounds mantissa places accuracy
  have short := lt_two_pow_shiftOf mantissa places
  rw [long] at bounds short
  rw [ceiling, ← Nat.div_lt_iff_lt_mul (Nat.two_pow_pos places)]
  have small : mantissa / 2 ^ places < 2 ^ 54 := by
    rw [Nat.div_lt_iff_lt_mul (Nat.two_pow_pos places)]
    calc mantissa < 2 ^ 53 * 2 ^ (places + 1) := short
      _ = 2 ^ 54 * 2 ^ places := by rw [Nat.pow_succ 2 places]; omega
  by_cases full : mantissa / 2 ^ (places + 1) = 2 ^ 53 - 1
  · have isMantissa : (ExtendedMantissa.ofMantissaAndAccuracy mantissa accuracy >>>
        (places + 1)).mantissa = 2 ^ 53 - 1 := by
      rw [mantissa_shift, mantissa_of, full]
    have up := roundedMantissa_of_odd (ExtendedMantissa.ofMantissaAndAccuracy mantissa accuracy >>>
      (places + 1)) (by omega)
    rw [isMantissa, roundBit_shift, mantissa_of] at up
    have bit : (mantissa / 2 ^ places % 2 != 0).toNat = mantissa / 2 ^ places % 2 := by
      rcases Nat.mod_two_eq_zero_or_one (mantissa / 2 ^ places) with even | odd
      · simp [even]
      · simp [odd]
    rw [rounded, long, up, bit]
    omega
  · omega

/-- A number fits after it was rounded exactly if it lies below the middle between the greatest
number and the power of two behind it. -/
theorem fits_roundWithAccuracy_iff (sign : Sign) :
    Fits (roundWithAccuracy binary64 sign mantissa (970 - places) accuracy) ↔
      mantissa < ceiling places := by
  have bounds := @rounded_bounds mantissa places accuracy
  rw [fits_iff_settled, settled]
  -- Only what has as many bits as the middle itself may be rounded to either side.
  rcases Nat.lt_trichotomy mantissa.log2 (53 + places) with low | middle | high
  · have isShift : shiftOf mantissa places ≤ places := by
      rw [shiftOf]
      omega
    have small : mantissa < ceiling places :=
      Nat.lt_log2_self.trans_le (le_ceiling (by omega))
    refine iff_of_true (.inr ?_) small
    split <;> dsimp only <;> omega
  · have isShift : shiftOf mantissa places = places + 1 := by
      rw [shiftOf]
      omega
    rw [← @rounded_lt_iff mantissa places accuracy isShift, isShift]
    split
    · next short =>
      refine iff_of_true (.inr ?_) short
      dsimp only
      omega
    · next full =>
      refine iff_of_false ?_ full
      dsimp only
      omega
  · have isShift : shiftOf mantissa places = mantissa.log2 - 52 := by
      rw [shiftOf]
      omega
    have nonzero : mantissa ≠ 0 := by
      rintro rfl
      simp at high
    have large : 2 ^ 52 * 2 ^ shiftOf mantissa places ≤ mantissa := by
      rw [← Nat.pow_add, isShift]
      exact (Nat.pow_le_pow_right (by decide) (by omega)).trans (Nat.log2_self_le nonzero)
    have beyond : ceiling places ≤ mantissa :=
      (ceiling_le (by omega)).trans (Nat.log2_self_le nonzero)
    have positive : 2 ^ 52 ≤ mantissa / 2 ^ shiftOf mantissa places :=
      (Nat.le_div_iff_mul_le (Nat.two_pow_pos _)).mpr large
    refine iff_of_false ?_ (Nat.not_lt.mpr beyond)
    split <;> dsimp only <;> omega

end

theorem two_pow_le_ten_pow (places : Nat) : 2 ^ (3 * places) ≤ 10 ^ places := by
  rw [Nat.pow_mul]
  exact Nat.pow_le_pow_left (by decide) places

/-- The least natural number that is rounded to infinity. -/
def overflow : Nat :=
  ceiling 970

theorem overflow_le {exponent : Nat} (large : 342 ≤ exponent) : overflow ≤ 10 ^ exponent :=
  calc overflow ≤ 2 ^ (3 * exponent) := ceiling_le (by omega)
    _ ≤ 10 ^ exponent := two_pow_le_ten_pow exponent

section

variable (sign : Sign) (coefficient : Nat) {power : Nat}

theorem fits_quotient (positive : 0 < power) (steps : Nat) (accuracy : Accuracy) :
    Fits (roundWithAccuracy binary64 sign (coefficient <<< steps / power) (-steps) accuracy) ↔
      coefficient < overflow * power := by
  have round :=
    @fits_roundWithAccuracy_iff (coefficient <<< steps / power) (970 + steps) accuracy sign
  have isExponent : (970 : Int) - ((970 + steps : Nat) : Int) = -steps := by omega
  rw [isExponent, ← ceiling_mul] at round
  rw [round, Nat.shiftLeft_eq, Nat.div_lt_iff_lt_mul positive, Nat.mul_right_comm]
  exact Nat.mul_lt_mul_right (Nat.two_pow_pos steps)

theorem fits_product (power : Nat) :
    Fits (roundWithAccuracy binary64 sign (coefficient <<< 53 * power) (-53) .exact) ↔
      coefficient * power < overflow := by
  have same : (coefficient * power) <<< 53 / 1 = coefficient <<< 53 * power := by
    rw [Nat.div_one, Nat.shiftLeft_eq, Nat.shiftLeft_eq, Nat.mul_right_comm]
  have round := fits_quotient sign (coefficient * power) Nat.one_pos 53 .exact
  rw [same, Nat.mul_one] at round
  exact round

theorem fits_divCore (positive : 0 < power) :
    let parts := UnpackedFloat.divCore binary64 coefficient 0 power 0
    Fits (roundWithAccuracy binary64 sign parts.1 parts.2.1 parts.2.2) ↔
      coefficient < overflow * power := by
  simp only [UnpackedFloat.divCore]
  generalize binary64.targetExponent _ = target
  obtain ⟨steps, isTarget⟩ := Int.exists_eq_neg_ofNat (Int.min_le_left (0 - 0) target)
  have isSteps : (0 - 0 - -(steps : Int)).toNat = steps := by omega
  rw [isTarget, isSteps]
  exact fits_quotient sign coefficient positive steps _

end

/-- A decimal is rounded to a number exactly if it lies below the limit. -/
theorem fits_ofScientific {coefficient : Nat} (nonzero : coefficient ≠ 0) (exponent : Int) :
    Fits (UnpackedFloat.ofScientific binary64 coefficient exponent) ↔
      coefficient * 10 ^ exponent.toNat < overflow * 10 ^ (-exponent).toNat := by
  have positive := Nat.pos_of_ne_zero nonzero
  fun_cases UnpackedFloat.ofScientific binary64 coefficient exponent with
  | case1 zero => exact absurd zero nonzero
  | case2 _ huge =>
      have tall : 342 ≤ exponent.toNat ∧ (-exponent).toNat = 0 := by
        have bound : (2048 : Int) < exponent := huge
        omega
      refine iff_of_false nofun (Nat.not_lt.mpr ?_)
      rw [tall.2, Nat.pow_zero, Nat.mul_one]
      exact (overflow_le tall.1).trans (Nat.le_mul_of_pos_left _ positive)
  | case3 _ _ tiny =>
      have deep : coefficient.log2 + 1 ≤ 3 * (-exponent).toNat ∧ exponent.toNat = 0 := by
        have bound : exponent < -(2048 + (coefficient.log2 : Int)) := tiny
        omega
      refine iff_of_true trivial ?_
      rw [deep.2, Nat.pow_zero, Nat.mul_one]
      calc coefficient < 2 ^ (coefficient.log2 + 1) := Nat.lt_log2_self
        _ ≤ 2 ^ (3 * (-exponent).toNat) := Nat.pow_le_pow_right (by decide) deep.1
        _ ≤ 10 ^ (-exponent).toNat := two_pow_le_ten_pow _
        _ ≤ overflow * 10 ^ (-exponent).toNat := Nat.le_mul_of_pos_left _ (ceiling_pos 970)
  | case4 _ _ _ whole =>
      have noPlace : (-exponent).toNat = 0 := by omega
      rw [noPlace, Nat.pow_zero, Nat.mul_one]
      exact fits_product _ coefficient (10 ^ exponent.toNat)
  | case5 _ _ _ fraction =>
      have noPlace : exponent.toNat = 0 := by omega
      rw [noPlace, Nat.pow_zero, Nat.mul_one]
      exact fits_divCore _ coefficient (Nat.pow_pos (by decide))

end FacetedQuery.Decimal
