import FacetedQuery.Decimal.Notation
import Mathlib.Algebra.Order.Ring.Int

/-!
# Finite numbers

A double-precision number is finite unless its exponent is made of ones.  What is rounded is packed
into a finite number exactly if its exponent is not too great, and a number that is small stays
small.  The finite numbers are those that have a decimal notation.
-/

namespace FacetedQuery.Decimal

open Float.Model (Format UnpackedFloat)
open Float.Model.Format (binary64)
open Float.Model.UnpackedFloat
  (Sign pack packComponents unpack unpackExponent unpackMantissa unpackSign)

theorem exponent_eq_iff {exponent : BitVec 11} : exponent = -1#11 ↔ exponent.toNat = 2047 := by
  rw [← BitVec.toNat_inj]
  rfl

theorem toNat_unpackExponent (bits : BitVec binary64.numBits) :
    (unpackExponent bits).toNat = bits.toNat / 2 ^ 52 % 2 ^ 11 := by
  simp [unpackExponent, BitVec.extractLsb_toNat, Nat.shiftRight_eq_div_pow]

/-- What the bits of a number stand for: a number that is not finite if their exponent is made of
ones, else zero or a number within bounds. -/
inductive Unpacks (bits : BitVec binary64.numBits) : UnpackedFloat → Prop where
  | ones {number : UnpackedFloat} : (unpackExponent bits).toNat = 2047 →
    number.isFinite = false → Unpacks bits number
  | zero (sign : Sign) : (unpackExponent bits).toNat ≠ 2047 → Unpacks bits (.zero sign)
  | finite (sign : Sign) {mantissa : Nat} {exponent : Int} (positive : 0 < mantissa) :
    (unpackExponent bits).toNat ≠ 2047 → mantissa < 2 ^ 53 →
    exponent ≤ max (((unpackExponent bits).toNat : Int) - 1075) (-1074) →
    Unpacks bits (.finite sign mantissa exponent positive)

theorem unpacks (bits : BitVec binary64.numBits) : Unpacks bits (unpack binary64 bits) := by
  by_cases ones : unpackExponent bits = -1#11
  · have isOnes := exponent_eq_iff.mp ones
    by_cases empty : unpackMantissa bits = 0#52
    · exact .ones isOnes (congrArg UnpackedFloat.isFinite ((if_pos ones).trans (if_pos empty)))
    · exact .ones isOnes (congrArg UnpackedFloat.isFinite ((if_pos ones).trans (if_neg empty)))
  have others := mt exponent_eq_iff.mpr ones
  by_cases zero : unpackExponent bits = 0#11
  · by_cases empty : unpackMantissa bits = 0#52
    · have isZero : unpack binary64 bits = .zero (.ofBitVec (unpackSign bits)) :=
        (if_neg ones).trans ((if_pos zero).trans (dif_pos empty))
      exact isZero ▸ .zero _ others
    · have bound : (unpackMantissa bits).toNat < 2 ^ 52 := (unpackMantissa bits).isLt
      obtain ⟨positive, isFinite⟩ : ∃ positive : 0 < (unpackMantissa bits).toNat,
          unpack binary64 bits = .finite (.ofBitVec (unpackSign bits)) (unpackMantissa bits).toNat
            (((unpackExponent bits).toNat : Int) - (1023 + 52) + 1) positive :=
        ⟨_, (if_neg ones).trans ((if_pos zero).trans (dif_neg empty))⟩
      refine isFinite ▸ .finite _ positive others (by omega) ?_
      rw [zero]
      decide
  · have bound : (1#1 ++ unpackMantissa bits).toNat < 2 ^ 53 := (1#1 ++ unpackMantissa bits).isLt
    obtain ⟨positive, isFinite⟩ : ∃ positive : 0 < (1#1 ++ unpackMantissa bits).toNat,
        unpack binary64 bits = .finite (.ofBitVec (unpackSign bits))
          (1#1 ++ unpackMantissa bits).toNat
          (((unpackExponent bits).toNat : Int) - (1023 + 52)) positive :=
      ⟨_, (if_neg ones).trans (if_neg zero)⟩
    exact isFinite ▸ .finite _ positive others bound (by omega)

theorem isFinite_unpack (bits : BitVec binary64.numBits) :
    (unpack binary64 bits).isFinite = true ↔ (unpackExponent bits).toNat ≠ 2047 := by
  have unpacked := unpacks bits
  generalize unpack binary64 bits = number at unpacked ⊢
  cases unpacked with
  | ones ones infinite => simp [ones, infinite]
  | zero sign other => exact iff_of_true rfl other
  | finite sign positive other => exact iff_of_true rfl other

/-- A number that is no infinity even after it was packed. -/
def Fits : UnpackedFloat → Prop
  | .notANumber => False
  | .infinity _ => False
  | .zero _ => True
  | .finite _ _ exponent _ => exponent ≤ 971

theorem isFinite_pack (number : UnpackedFloat) :
    (unpack binary64 (pack binary64 number)).isFinite = true ↔ Fits number := by
  rw [isFinite_unpack]
  fun_cases pack binary64 number with
  | case1 => exact iff_of_false (by decide) id
  | case2 sign => exact iff_of_false (by cases sign <;> decide) id
  | case3 sign => exact iff_of_true (by cases sign <;> decide) trivial
  | case4 sign mantissa exponent positive biased beyond =>
      have large : ¬exponent ≤ 971 := by
        simp only [biased, Format.exponentBias] at beyond
        omega
      change _ ↔ exponent ≤ 971
      simpa [UnpackedFloat.packedInfinity] using large
  | case5 sign mantissa exponent positive bits biased under normal =>
      have small : exponent ≤ 971 ∧ biased % 2 ^ 11 ≠ 2047 := by
        simp only [biased, Format.exponentBias] at under ⊢
        omega
      change _ ↔ exponent ≤ 971
      simpa [small.1] using small.2
  | case6 sign mantissa exponent positive bits biased under subnormal =>
      have small : exponent ≤ 971 := by
        simp only [biased, Format.exponentBias] at under
        omega
      change _ ↔ exponent ≤ 971
      simp [small]

/-- A number that is zero or has an exponent up to some limit. -/
def Below (limit : Int) : UnpackedFloat → Prop
  | .notANumber => False
  | .infinity _ => False
  | .zero _ => True
  | .finite _ mantissa exponent _ => mantissa < 2 ^ 53 ∧ exponent ≤ limit

theorem below_unpack (bits : BitVec binary64.numBits)
    (finite : (unpackExponent bits).toNat ≠ 2047) :
    Below (max (((unpackExponent bits).toNat : Int) - 1075) (-1074)) (unpack binary64 bits) := by
  have unpacked := unpacks bits
  generalize unpack binary64 bits = number at unpacked ⊢
  cases unpacked with
  | ones ones => exact absurd ones finite
  | zero => trivial
  | finite sign positive other small scale => exact ⟨small, scale⟩

theorem Below.mono {number : UnpackedFloat} {limit other : Int} (below : Below limit number)
    (higher : limit ≤ other) : Below other number := by
  cases number with
  | notANumber => exact below
  | infinity sign => exact below
  | zero sign => trivial
  | finite sign mantissa exponent positive => exact ⟨below.1, Int.le_trans below.2 higher⟩

theorem Below.fits {number : UnpackedFloat} {limit : Int} (below : Below limit number)
    (most : limit ≤ 971) : Fits number := by
  cases number with
  | notANumber => exact below
  | infinity sign => exact below
  | zero sign => trivial
  | finite sign mantissa exponent positive => exact Int.le_trans below.2 most

theorem Below.exponent_pack {number : UnpackedFloat} {limit : Int} (below : Below limit number)
    (least : -1074 ≤ limit) (most : limit ≤ 971) :
    ((unpackExponent (pack binary64 number)).toNat : Int) - 1075 ≤ limit := by
  fun_cases pack binary64 number with
  | case1 => cases below
  | case2 sign => cases below
  | case3 sign =>
      simp [UnpackedFloat.packedZero]
      omega
  | case4 sign mantissa exponent positive biased beyond =>
      have bound : exponent ≤ limit := below.2
      simp only [biased, Format.exponentBias] at beyond
      omega
  | case5 sign mantissa exponent positive bits biased under normal =>
      have bound : exponent ≤ limit := below.2
      simp [biased, Format.exponentBias]
      omega
  | case6 sign mantissa exponent positive bits biased under subnormal =>
      simp
      omega

theorem Below.repack {number : UnpackedFloat} {limit : Int} (below : Below limit number)
    (least : -1074 ≤ limit) (most : limit ≤ 971) :
    Below limit (unpack binary64 (pack binary64 number)) := by
  have finite := (isFinite_pack number).mpr (below.fits most)
  have unpacked := below_unpack _ ((isFinite_unpack _).mp finite)
  exact unpacked.mono (max_le (below.exponent_pack least most) least)

theorem fits_unpack {bits : BitVec binary64.numBits}
    (finite : (unpack binary64 bits).isFinite = true) :
    Fits (unpack binary64 bits) := by
  have scale := (isFinite_unpack bits).mp finite
  have bound : (unpackExponent bits).toNat < 2048 := (unpackExponent bits).isLt
  exact (below_unpack bits scale).fits (by omega)

/-- A number is as finite as its negative. -/
theorem isFinite_neg (number : Float) : (-number).isFinite = number.isFinite := by
  have repacked : (-number).isFinite = true ↔ Fits number.toModel.unpack.neg :=
    isFinite_pack number.toModel.unpack.neg
  have finite : number.isFinite = number.toModel.unpack.isFinite := rfl
  rw [Bool.eq_iff_iff, repacked, finite]
  constructor
  · intro fits
    cases unpacked : number.toModel.unpack with
    | notANumber => rw [unpacked] at fits; cases fits
    | infinity sign => rw [unpacked] at fits; cases fits
    | zero sign => rfl
    | finite sign mantissa exponent positive => rfl
  · intro isFinite
    have fits : Fits number.toModel.unpack := fits_unpack isFinite
    cases unpacked : number.toModel.unpack with
    | notANumber => rw [unpacked] at fits; cases fits
    | infinity sign => rw [unpacked] at fits; cases fits
    | zero sign => trivial
    | finite sign mantissa exponent positive => rw [unpacked] at fits; exact fits

/-- There is a mixed notation of the finite numbers only. -/
theorem mixed?_eq_none {number : Float} : mixed? number = none ↔ number.isFinite = false := by
  have scale : number.isFinite = true ↔ number.toBits.toNat / 2 ^ 52 % 2 ^ 11 ≠ 2047 := by
    rw [← UInt64.toNat_toBitVec, ← toNat_unpackExponent]
    exact isFinite_unpack number.toModel.toBits.toBitVec
  rw [← Bool.not_eq_true, scale, not_not, mixed?, FloatClass.ofFloat]
  fun_cases FloatClass.ofBits number.toBits.toNat with
  | case1 negative scale fraction ones => exact iff_of_true rfl (beq_iff_eq.mp ones)
  | case2 scale fraction ones => exact iff_of_true rfl (beq_iff_eq.mp ones)
  | case3 negative scale fraction other => exact iff_of_false nofun (mt beq_iff_eq.mpr other)
  | case4 negative scale fraction other => exact iff_of_false nofun (mt beq_iff_eq.mpr other)
  | case5 negative scale fraction other => exact iff_of_false nofun (mt beq_iff_eq.mpr other)

end FacetedQuery.Decimal
