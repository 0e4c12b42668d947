import CgroupMeter.Json.Real
import Mathlib

/-!
# Floating-point numbers up to a power of ten

A power of ten up to the twenty-second is a floating-point number.  Rounding
therefore never leads beyond it: whatever is at most such a power of ten before
it is rounded is at most that power of ten afterwards.

The statements are about the unpacked floating-point numbers of the logical
model of `Float`, with their magnitude as a rational number.  The invariant of
rounding is the ceiling of a significand whose last bits were shifted out.
-/

namespace CgroupMeter.FloatBound

open Float.Model (Format UnpackedFloat totalExponent)
open Float.Model.UnpackedFloat

/-- The magnitude of a significand and an exponent. -/
def magnitude (significand : Nat) (exponent : Int) : ℚ :=
  significand * 2 ^ exponent

/-- A number is no larger than a power of ten. -/
inductive AtMost (bound : Nat) : UnpackedFloat → Prop
  | zero (sign : Sign) : AtMost bound (.zero sign)
  | finite (sign : Sign) {significand : Nat} {exponent : Int}
      (positive : 0 < significand)
      (small : magnitude significand exponent ≤ 10 ^ bound) :
      AtMost bound (.finite sign significand exponent positive)

/-- The largest power of ten that is a floating-point number. -/
def exactPowers : Nat := 22

/-! ## Magnitudes -/

theorem magnitude_mono {left right : Nat} (less : left ≤ right)
    (exponent : Int) : magnitude left exponent ≤ magnitude right exponent := by
  unfold magnitude
  have cast : (left : ℚ) ≤ right := Nat.cast_le.2 less
  gcongr

theorem magnitude_mul (left right : Nat) (first second : Int) :
    magnitude (left * right) (first + second) =
      magnitude left first * magnitude right second := by
  unfold magnitude
  rw [zpow_add₀ two_ne_zero, Nat.cast_mul]
  ring

theorem magnitude_nonneg (significand : Nat) (exponent : Int) :
    0 ≤ magnitude significand exponent := by
  unfold magnitude
  positivity

theorem ten_pow_lt {bound : Nat} (exact : bound ≤ exactPowers) :
    (10 : ℚ) ^ bound < 2 ^ ((bound : Int) + 53) := by
  have five : (5 : ℚ) ^ bound < 2 ^ 53 := by
    calc (5 : ℚ) ^ bound ≤ 5 ^ exactPowers :=
          pow_le_pow_right₀ (by norm_num) exact
      _ < 2 ^ 53 := by norm_num [exactPowers]
  have split : (10 : ℚ) ^ bound = 5 ^ bound * 2 ^ bound := by
    rw [← mul_pow]
    norm_num
  rw [split, zpow_add₀ two_ne_zero, zpow_natCast, mul_comm]
  gcongr
  exact_mod_cast five

/-- The last bit of a number that is at most a power of ten. -/
theorem totalExponent_le {bound significand : Nat} {exponent : Int}
    (exact : bound ≤ exactPowers) (positive : 0 < significand)
    (small : magnitude significand exponent ≤ 10 ^ bound) :
    totalExponent significand exponent ≤ bound + 53 := by
  have first : (2 : ℚ) ^ ((significand.log2 : Int) + exponent) ≤
      magnitude significand exponent := by
    unfold magnitude
    rw [zpow_add₀ two_ne_zero, zpow_natCast]
    have bits : (2 : ℚ) ^ significand.log2 ≤ significand := by
      exact_mod_cast Nat.log2_self_le (Nat.pos_iff_ne_zero.1 positive)
    gcongr
  have less : (2 : ℚ) ^ ((significand.log2 : Int) + exponent) <
      2 ^ ((bound : Int) + 53) :=
    lt_of_le_of_lt (first.trans small) (ten_pow_lt exact)
  have exponents := (zpow_lt_zpow_iff_right₀ (by norm_num)).1 less
  unfold totalExponent
  omega

theorem exists_steps (bound : Nat) {exponent : Int} (small : exponent ≤ bound) :
    ∃ steps : Nat, magnitude steps exponent = 10 ^ bound := by
  refine ⟨5 ^ bound * 2 ^ ((bound : Int) - exponent).toNat, ?_⟩
  have shift : (((bound : Int) - exponent).toNat : Int) = bound - exponent := by
    omega
  unfold magnitude
  push_cast
  rw [← zpow_natCast 2 ((bound : Int) - exponent).toNat, shift, mul_assoc,
    ← zpow_add₀ two_ne_zero, sub_add_cancel, zpow_natCast, ← mul_pow]
  norm_num

/-! ## Shifting -/

/-- The significand with the bits that were shifted out rounded up. -/
def ceiling (extended : ExtendedMantissa) : Nat :=
  extended.mantissa + if extended.roundBit || extended.stickyBit then 1 else 0

theorem ceiling_shiftRightOne {extended : ExtendedMantissa} {steps : Nat}
    (small : ceiling extended ≤ steps * 2) :
    ceiling extended.shiftRightOne ≤ steps := by
  rcases extended with ⟨mantissa, roundBit, stickyBit⟩
  unfold ceiling ExtendedMantissa.shiftRightOne at *
  simp only at *
  rcases Nat.mod_two_eq_zero_or_one mantissa with even | odd
  · cases roundBit <;> cases stickyBit <;> simp [even] at small ⊢ <;> omega
  · cases roundBit <;> cases stickyBit <;> simp [odd] at small ⊢ <;> omega

theorem shiftRight_zero (extended : ExtendedMantissa) :
    extended >>> 0 = extended := rfl

/-- Shifting divides the ceiling. -/
theorem ceiling_shiftRight {extended : ExtendedMantissa} {steps : Nat}
    (shift : Nat) (small : ceiling extended ≤ steps * 2 ^ shift) :
    ceiling (extended >>> shift) ≤ steps := by
  induction shift generalizing steps with
  | zero =>
      rw [shiftRight_zero]
      simpa using small
  | succ shift ih =>
      change ceiling (extended >>> shift).shiftRightOne ≤ steps
      refine ceiling_shiftRightOne (ih ?_)
      calc ceiling extended ≤ steps * 2 ^ (shift + 1) := small
        _ = steps * 2 * 2 ^ shift := by ring

theorem roundedMantissa_le (extended : ExtendedMantissa) :
    extended.roundedMantissa ≤ ceiling extended := by
  rcases extended with ⟨mantissa, roundBit, stickyBit⟩
  cases roundBit <;> cases stickyBit <;>
    simp [ExtendedMantissa.roundedMantissa, ExtendedMantissa.accuracy,
      Accuracy.roundToNearestEven, ceiling]
  omega

/-- A shift to an exponent that divides the power of ten does not lead beyond
it. -/
theorem magnitude_shiftToExponent {bound : Nat} {mantissa : Nat}
    {exponent target : Int} {accuracy : Accuracy} (divides : target ≤ bound)
    (small : magnitude
      (ceiling (.ofMantissaAndAccuracy mantissa accuracy)) exponent ≤
        10 ^ bound) :
    magnitude (ceiling (shiftToExponent mantissa exponent accuracy target).1)
      (shiftToExponent mantissa exponent accuracy target).2 ≤ 10 ^ bound := by
  unfold shiftToExponent
  simp only
  rcases le_total target exponent with reached | further
  · have none : (target - exponent).toNat = 0 := by omega
    rw [none, shiftRight_zero]
    simpa using small
  · have moved : exponent + ((target - exponent).toNat : Int) = target := by
      omega
    rw [moved]
    rcases exists_steps bound divides with ⟨steps, whole⟩
    rw [← whole] at small ⊢
    refine magnitude_mono (ceiling_shiftRight _ ?_) target
    have powers : (2 : ℚ) ^ target =
        2 ^ (target - exponent).toNat * 2 ^ exponent := by
      rw [← zpow_natCast, ← zpow_add₀ two_ne_zero]
      congr 1
      omega
    unfold magnitude at small
    rw [powers, ← mul_assoc] at small
    have cancelled := le_of_mul_le_mul_right small (zpow_pos two_pos exponent)
    exact_mod_cast cancelled

/-! ## Rounding -/

/-- The target of a shift divides a power of ten that is not exceeded. -/
theorem targetExponent_le {bound significand : Nat} {exponent : Int}
    (exact : bound ≤ exactPowers) (positive : 0 < significand)
    (small : magnitude significand exponent ≤ 10 ^ bound) :
    Format.binary64.targetExponent (totalExponent significand exponent) ≤
      bound := by
  have total := totalExponent_le exact positive small
  simp only [Format.targetExponent, Format.mantissaBits, Format.minExponent]
  norm_num
  omega

theorem mantissa_le_ceiling (extended : ExtendedMantissa) :
    extended.mantissa ≤ ceiling extended :=
  Nat.le_add_right _ _

theorem mantissa_shift_zero (exponent : Int) :
    (shiftToTargetExponent .binary64 0 exponent .exact).1.mantissa = 0 := by
  refine Nat.le_zero.1 (le_trans (mantissa_le_ceiling _) ?_)
  unfold shiftToTargetExponent shiftToExponent
  apply ceiling_shiftRight _
  rw [Nat.zero_mul]
  exact Nat.le_refl 0

theorem ceiling_exact (mantissa : Nat) :
    ceiling (.ofMantissaAndAccuracy mantissa .exact) = mantissa := rfl

theorem le_ceiling (mantissa : Nat) (accuracy : Accuracy) :
    mantissa ≤ ceiling (.ofMantissaAndAccuracy mantissa accuracy) := by
  cases accuracy with
  | exact => exact Nat.le_refl _
  | inexact order =>
      cases order with
      | lt => exact Nat.le_add_right _ _
      | eq => exact Nat.le_add_right _ _
      | gt => exact Nat.le_add_right _ _

/-- Shifting to the target exponent does not lead beyond a power of ten. -/
theorem magnitude_shiftToTargetExponent {bound mantissa : Nat} {exponent : Int}
    {accuracy : Accuracy} (exact : bound ≤ exactPowers)
    (positive : 0 < ceiling (.ofMantissaAndAccuracy mantissa accuracy))
    (small : magnitude
      (ceiling (.ofMantissaAndAccuracy mantissa accuracy)) exponent ≤
        10 ^ bound) :
    magnitude
      (ceiling (shiftToTargetExponent .binary64 mantissa exponent accuracy).1)
      (shiftToTargetExponent .binary64 mantissa exponent accuracy).2 ≤
        10 ^ bound := by
  refine magnitude_shiftToExponent ?_ small
  rcases Nat.eq_zero_or_pos mantissa with rfl | nonzero
  · -- A significand of zero has as many bits as one of one.
    have one : totalExponent 0 exponent = totalExponent 1 exponent := rfl
    rw [one]
    apply targetExponent_le exact Nat.one_pos
    exact (magnitude_mono positive exponent).trans small
  · apply targetExponent_le exact nonzero
    exact (magnitude_mono (le_ceiling mantissa accuracy) exponent).trans small

theorem atMost_roundWithAccuracy {bound mantissa : Nat} {exponent : Int}
    {accuracy : Accuracy} (sign : Sign) (exact : bound ≤ exactPowers)
    (positive : 0 < ceiling (.ofMantissaAndAccuracy mantissa accuracy))
    (small : magnitude
      (ceiling (.ofMantissaAndAccuracy mantissa accuracy)) exponent ≤
        10 ^ bound) :
    AtMost bound
      (roundWithAccuracy .binary64 sign mantissa exponent accuracy) := by
  have first := magnitude_shiftToTargetExponent exact positive small
  unfold roundWithAccuracy
  simp only
  generalize shiftToTargetExponent .binary64 mantissa exponent accuracy =
    shifted at first
  have rounded :
      magnitude shifted.1.roundedMantissa shifted.2 ≤ 10 ^ bound :=
    (magnitude_mono (roundedMantissa_le shifted.1) shifted.2).trans first
  split
  · exact .zero sign
  · rename_i notZero
    refine .finite sign _ ?_
    rcases Nat.eq_zero_or_pos shifted.1.roundedMantissa with zero | nonzero
    · rw [zero, mantissa_shift_zero] at notZero
      exact absurd rfl notZero
    · rw [← ceiling_exact shifted.1.roundedMantissa] at nonzero rounded
      have second := magnitude_shiftToTargetExponent exact nonzero rounded
      exact (magnitude_mono (mantissa_le_ceiling _) _).trans second

theorem atMost_round {bound mantissa : Nat} {exponent : Int} (sign : Sign)
    (exact : bound ≤ exactPowers) (positive : 0 < mantissa)
    (small : magnitude mantissa exponent ≤ 10 ^ bound) :
    AtMost bound (UnpackedFloat.round .binary64 sign mantissa exponent) := by
  unfold UnpackedFloat.round decreaseExponent
  simp only
  have same : ∀ shift : Nat,
      magnitude (mantissa <<< shift) (exponent - shift) =
        magnitude mantissa exponent := by
    intro shift
    unfold magnitude
    rw [Nat.shiftLeft_eq, Nat.cast_mul, Nat.cast_pow, mul_assoc,
      ← zpow_natCast, Nat.cast_ofNat, ← zpow_add₀ two_ne_zero,
      add_sub_cancel]
  refine atMost_roundWithAccuracy sign exact ?_ ?_
  · rw [ceiling_exact, Nat.shiftLeft_eq]
    positivity
  · rw [ceiling_exact, same]
    exact small

/-! ## Packing -/

/-- A number of 53 bits that is not even a whole step is small. -/
theorem magnitude_tiny {significand : Nat} {exponent : Int} (bound : Nat)
    (bits : significand < 2 ^ 53) (tiny : exponent ≤ -53) :
    magnitude significand exponent ≤ 10 ^ bound := by
  have significandSmall : (significand : ℚ) ≤ 2 ^ (53 : Int) := by
    have bitsLe : significand ≤ 2 ^ 53 := bits.le
    exact_mod_cast bitsLe
  have stepSmall : (2 : ℚ) ^ exponent ≤ 2 ^ (-53 : Int) :=
    zpow_le_zpow_right₀ one_le_two tiny
  calc magnitude significand exponent
      ≤ 2 ^ (53 : Int) * 2 ^ (-53 : Int) := by
        unfold magnitude
        exact mul_le_mul significandSmall stepSmall (by positivity)
          (by positivity)
    _ = 1 := by rw [← zpow_add₀ two_ne_zero]; norm_num
    _ ≤ 10 ^ bound := one_le_pow₀ (by norm_num)

/-- A number that is at most a power of ten has a small exponent. -/
theorem exponent_le {bound significand : Nat} {exponent : Int}
    (exact : bound ≤ exactPowers) (positive : 0 < significand)
    (small : magnitude significand exponent ≤ 10 ^ bound) :
    exponent ≤ 74 := by
  have total := totalExponent_le exact positive small
  unfold totalExponent at total
  unfold exactPowers at exact
  omega

/-- A significand of 53 bits is packed without its first bit. -/
theorem toNat_implicit {significand : Nat} (bits : significand.log2 = 52) :
    (1#1 ++ BitVec.ofNat 52 significand).toNat = significand := by
  have positive : significand ≠ 0 := by
    rintro rfl
    simp at bits
  have low := Nat.log2_self_le positive
  have high := Nat.lt_log2_self (n := significand)
  rw [bits] at low high
  have rest : significand % 2 ^ 52 = significand - 2 ^ 52 := by
    rw [Nat.mod_eq_sub_mod low, Nat.mod_eq_of_lt (by omega)]
  rw [BitVec.toNat_append, BitVec.toNat_ofNat, BitVec.toNat_ofNat, rest,
    ← Nat.shiftLeft_add_eq_or_of_lt (by omega), Nat.shiftLeft_eq]
  omega

/-- What is packed is at most a power of ten when it was that before. -/
theorem atMost_unpack_pack {bound : Nat} {number : UnpackedFloat}
    (exact : bound ≤ exactPowers) (small : AtMost bound number) :
    AtMost bound (unpack .binary64 (pack .binary64 number)) := by
  cases small with
  | zero sign =>
      have same : unpack .binary64 (pack .binary64 (.zero sign)) =
          .zero (Sign.ofBitVec
            (unpackSign (packedZero .binary64 sign))) := by
        simp [pack, packedZero, unpack]
      rw [same]
      exact .zero _
  | @finite sign significand exponent positive small =>
      have limit := exponent_le exact positive small
      have subnormal : ∀ fraction : BitVec 52,
          AtMost bound (unpack .binary64
            (packComponents .binary64 sign 0#11 fraction)) := by
        intro fraction
        unfold unpack
        simp only [unpackExponent_packComponents,
          unpackMantissa_packComponents]
        rw [if_neg (by decide), if_pos trivial]
        split
        · exact .zero _
        · exact .finite _ _ (magnitude_tiny bound
            (lt_of_lt_of_le fraction.isLt (by norm_num)) (by decide))
      have biased : (exponent + (Format.binary64.exponentBias : Int) +
          (Format.binary64.mantissaBitsWithoutImplicit : Int)).toNat =
            (exponent + 1075).toNat := by
        change (exponent + 1023 + 52).toNat = _
        omega
      unfold pack
      simp only [biased]
      rw [if_neg (by change ¬ 2048 ≤ _; omega)]
      split
      · rename_i bits
        have log : significand.log2 = 52 := by
          change significand.log2 + 1 = 53 at bits
          omega
        by_cases least : (exponent + 1075).toNat = 0
        · rw [least]
          exact subnormal _
        · have stored : (BitVec.ofNat 11 (exponent + 1075).toNat).toNat =
              (exponent + 1075).toNat := by
            rw [BitVec.toNat_ofNat, Nat.mod_eq_of_lt (by omega)]
          have notInfinite :
              BitVec.ofNat 11 (exponent + 1075).toNat ≠ -1#11 := by
            intro equal
            have same := congrArg BitVec.toNat equal
            rw [stored] at same
            change _ = 2047 at same
            omega
          have notZero : BitVec.ofNat 11 (exponent + 1075).toNat ≠ 0#11 := by
            intro equal
            have same := congrArg BitVec.toNat equal
            rw [stored] at same
            exact least same
          unfold unpack
          simp only [unpackExponent_packComponents,
            unpackMantissa_packComponents]
          rw [if_neg notInfinite, if_neg notZero]
          refine .finite _ _ ?_
          rw [toNat_implicit log, stored]
          have back : ((exponent + 1075).toNat : Int) -
              ((Format.binary64.exponentBias : Int) +
                (Format.binary64.mantissaBitsWithoutImplicit : Int)) =
                  exponent := by
            change ((exponent + 1075).toNat : Int) - (1023 + 52) = exponent
            omega
          rw [back]
          exact small
      · exact subnormal _

/-! ## Products and quotients -/

theorem atMost_mul {left right : Nat} {first second : UnpackedFloat}
    (exact : left + right ≤ exactPowers) (firstSmall : AtMost left first)
    (secondSmall : AtMost right second) :
    AtMost (left + right) (mul .binary64 first second) := by
  cases firstSmall with
  | zero sign =>
      cases secondSmall with
      | zero other => exact .zero _
      | finite other positive small => exact .zero _
  | finite sign positive small =>
      cases secondSmall with
      | zero other => exact .zero _
      | finite other factorPositive factorSmall =>
          refine atMost_roundWithAccuracy (sign * other) exact ?_ ?_
          · rw [ceiling_exact]
            exact Nat.mul_pos positive factorPositive
          · rw [ceiling_exact, magnitude_mul, pow_add]
            exact mul_le_mul small factorSmall (magnitude_nonneg _ _)
              (by positivity)

theorem atMost_mul_one {bound : Nat} {first second : UnpackedFloat}
    (exact : bound ≤ exactPowers) (firstSmall : AtMost bound first)
    (secondSmall : AtMost 0 second) :
    AtMost bound (mul .binary64 first second) :=
  atMost_mul exact firstSmall secondSmall

/-- A number is at least one. -/
inductive AtLeastOne : UnpackedFloat → Prop
  | finite (sign : Sign) {significand : Nat} {exponent : Int}
      (positive : 0 < significand)
      (large : 1 ≤ magnitude significand exponent) :
      AtLeastOne (.finite sign significand exponent positive)

/-- A number that is at least one has bits before its point. -/
theorem totalExponent_pos {significand : Nat} {exponent : Int}
    (large : 1 ≤ magnitude significand exponent) :
    1 ≤ totalExponent significand exponent := by
  have bits : (significand : ℚ) < 2 ^ (significand.log2 + 1) := by
    exact_mod_cast Nat.lt_log2_self (n := significand)
  have less : (2 : ℚ) ^ (0 : Int) < 2 ^ totalExponent significand exponent := by
    calc (2 : ℚ) ^ (0 : Int) ≤ magnitude significand exponent := by simpa using large
      _ < 2 ^ (significand.log2 + 1) * 2 ^ exponent := by
        unfold magnitude
        gcongr
      _ = 2 ^ totalExponent significand exponent := by
        rw [← zpow_natCast, ← zpow_add₀ two_ne_zero]
        rfl
  have exponents := (zpow_lt_zpow_iff_right₀ (by norm_num)).1 less
  omega

/-- The accuracy of a fraction rounds it up to the next whole number. -/
theorem ceiling_fraction_le {number divisor steps : Nat}
    (positive : 0 < divisor) (small : number ≤ steps * divisor) :
    ceiling (.ofMantissaAndAccuracy (number / divisor)
      (accuracyOfFraction (number % divisor) divisor)) ≤ steps := by
  unfold accuracyOfFraction
  split
  · rw [ceiling_exact]
    exact Nat.div_le_of_le_mul (by rwa [Nat.mul_comm])
  · rename_i inexact
    have up : ∀ order, ceiling (.ofMantissaAndAccuracy (number / divisor)
        (.inexact order)) = number / divisor + 1 := by
      intro order
      cases order with
      | lt => rfl
      | eq => rfl
      | gt => rfl
    rw [up]
    apply (Nat.div_lt_iff_lt_mul positive).2
    apply Nat.lt_of_le_of_ne small
    rintro rfl
    exact inexact (Nat.mul_mod_left steps divisor)

theorem ceiling_fraction_pos {number divisor : Nat} (positive : 0 < number) :
    0 < ceiling (.ofMantissaAndAccuracy (number / divisor)
      (accuracyOfFraction (number % divisor) divisor)) := by
  apply Nat.pos_of_ne_zero
  intro zero
  have quotient : number / divisor = 0 :=
    Nat.le_zero.1 (zero ▸ le_ceiling _ _)
  have rest : number % divisor = number := by
    have whole := Nat.div_add_mod number divisor
    rw [quotient] at whole
    omega
  rw [quotient, rest] at zero
  unfold accuracyOfFraction at zero
  rw [if_neg (Nat.pos_iff_ne_zero.1 positive)] at zero
  generalize compare (2 * number) divisor = order at zero
  cases order with
  | lt => cases zero
  | eq => cases zero
  | gt => cases zero

theorem atMost_div {bound : Nat} {number divisor : UnpackedFloat}
    (exact : bound ≤ exactPowers) (small : AtMost bound number)
    (large : AtLeastOne divisor) :
    AtMost bound (div .binary64 number divisor) := by
  cases large with
  | @finite other factor power factorPositive large =>
      cases small with
      | zero sign => exact .zero _
      | @finite sign significand exponent positive small =>
          unfold div divCore
          simp only
          have dividend := totalExponent_le exact positive small
          have one := totalExponent_pos large
          generalize aimed : min (exponent - power)
            (Format.binary64.targetExponent
              (totalExponent significand exponent -
                totalExponent factor power)) = target
          have divides : target ≤ bound := by
            rw [← aimed]
            apply le_trans (min_le_right _ _)
            simp only [Format.targetExponent, Format.mantissaBits,
              Format.minExponent]
            norm_num
            omega
          have least : target ≤ exponent - power := by
            rw [← aimed]
            exact min_le_left _ _
          rcases exists_steps bound divides with ⟨steps, whole⟩
          have shifted :
              significand <<< (exponent - power - target).toNat ≤
                steps * factor := by
            have product : magnitude significand exponent ≤
                magnitude (steps * factor) (target + power) := by
              rw [magnitude_mul, whole]
              calc magnitude significand exponent ≤ 10 ^ bound * 1 := by
                    rw [mul_one]
                    exact small
                _ ≤ 10 ^ bound * magnitude factor power := by
                    gcongr
            have powers : (2 : ℚ) ^ exponent =
                2 ^ (exponent - power - target).toNat *
                  2 ^ (target + power) := by
              rw [← zpow_natCast, ← zpow_add₀ two_ne_zero]
              congr 1
              omega
            unfold magnitude at product
            rw [powers, ← mul_assoc] at product
            have cancelled := le_of_mul_le_mul_right product
              (zpow_pos two_pos (target + power))
            rw [Nat.shiftLeft_eq]
            exact_mod_cast cancelled
          refine atMost_roundWithAccuracy (sign / other) exact ?_ ?_
          · apply ceiling_fraction_pos
            rw [Nat.shiftLeft_eq]
            positivity
          · rw [← whole]
            exact magnitude_mono
              (ceiling_fraction_le factorPositive shifted) target

/-! ## Machine numbers -/

/-- A floating-point number is no larger than a power of ten. -/
def IsAtMost (bound : Nat) (number : Float) : Prop :=
  AtMost bound number.toModel.unpack

theorem atMost_unpack_model {bound : Nat} {number : UnpackedFloat}
    (exact : bound ≤ exactPowers) (small : AtMost bound number) :
    AtMost bound (Float.Model.pack number).unpack :=
  atMost_unpack_pack exact small

theorem AtMost.isInf_eq_false {bound : Nat} {number : UnpackedFloat}
    (small : AtMost bound number) : number.isInf = false := by
  cases small with
  | zero sign => rfl
  | finite sign positive small => rfl

theorem AtMost.neg {bound : Nat} {number : UnpackedFloat}
    (small : AtMost bound number) : AtMost bound number.neg := by
  cases small with
  | zero sign => exact .zero _
  | finite sign positive small => exact .finite _ positive small

theorem AtMost.mono {left right : Nat} {number : UnpackedFloat}
    (less : left ≤ right) (small : AtMost left number) :
    AtMost right number := by
  cases small with
  | zero sign => exact .zero sign
  | finite sign positive small =>
      exact .finite sign positive
        (le_trans small (pow_le_pow_right₀ (by norm_num) less))

theorem IsAtMost.isInf_eq_false {bound : Nat} {number : Float}
    (small : IsAtMost bound number) : number.isInf = false :=
  AtMost.isInf_eq_false small

theorem IsAtMost.mul {left right : Nat} {first second : Float}
    (exact : left + right ≤ exactPowers) (firstSmall : IsAtMost left first)
    (secondSmall : IsAtMost right second) :
    IsAtMost (left + right) (first * second) :=
  atMost_unpack_model exact (atMost_mul exact firstSmall secondSmall)

theorem IsAtMost.div {bound : Nat} {number divisor : Float}
    (exact : bound ≤ exactPowers) (small : IsAtMost bound number)
    (large : AtLeastOne divisor.toModel.unpack) :
    IsAtMost bound (number / divisor) :=
  atMost_unpack_model exact (atMost_div exact small large)

theorem IsAtMost.neg {bound : Nat} {number : Float}
    (exact : bound ≤ exactPowers) (small : IsAtMost bound number) :
    IsAtMost bound (-number) :=
  atMost_unpack_model exact (AtMost.neg small)

theorem IsAtMost.mono {left right : Nat} {number : Float}
    (less : left ≤ right) (small : IsAtMost left number) :
    IsAtMost right number :=
  AtMost.mono less small

theorem atMost_ofNat {bound number : Nat} (exact : bound ≤ exactPowers)
    (small : number ≤ 10 ^ bound) :
    AtMost bound (UnpackedFloat.ofNat .binary64 number) := by
  unfold UnpackedFloat.ofNat ofInt UnpackedFloat.normalize
  rcases Nat.eq_zero_or_pos number with rfl | positive
  · exact .zero _
  · have greater : compare (number : Int) 0 = .gt := by
      rw [Int.compare_eq_gt]
      omega
    rw [greater]
    apply atMost_round .positive exact positive
    unfold magnitude
    simpa using (by exact_mod_cast small : (number : ℚ) ≤ 10 ^ bound)

theorem magnitude_le_iff {significand whole : Nat} {exponent : Int} :
    magnitude significand exponent ≤ whole ↔
      significand * 2 ^ exponent.toNat ≤ whole * 2 ^ (-exponent).toNat := by
  have split : (2 : ℚ) ^ exponent * 2 ^ (-exponent).toNat =
      2 ^ exponent.toNat := by
    rw [← zpow_natCast, ← zpow_natCast, ← zpow_add₀ two_ne_zero]
    congr 1
    omega
  have scale : (0 : ℚ) < 2 ^ (-exponent).toNat := by positivity
  rw [← mul_le_mul_iff_left₀ scale]
  unfold magnitude
  rw [mul_assoc, split]
  norm_cast

theorem le_magnitude_iff {significand whole : Nat} {exponent : Int} :
    whole ≤ magnitude significand exponent ↔
      whole * 2 ^ (-exponent).toNat ≤ significand * 2 ^ exponent.toNat := by
  have split : (2 : ℚ) ^ exponent * 2 ^ (-exponent).toNat =
      2 ^ exponent.toNat := by
    rw [← zpow_natCast, ← zpow_natCast, ← zpow_add₀ two_ne_zero]
    congr 1
    omega
  have scale : (0 : ℚ) < 2 ^ (-exponent).toNat := by positivity
  rw [← mul_le_mul_iff_left₀ scale]
  unfold magnitude
  rw [mul_assoc, split]
  norm_cast

/-- Whether a number is at most a power of ten. -/
def checkAtMost (bound : Nat) : UnpackedFloat → Bool
  | .zero _ => true
  | .finite _ significand exponent _ =>
      significand * 2 ^ exponent.toNat ≤ 10 ^ bound * 2 ^ (-exponent).toNat
  | .infinity _ => false
  | .notANumber => false

theorem atMost_of_check {bound : Nat} {number : UnpackedFloat}
    (checked : checkAtMost bound number = true) : AtMost bound number := by
  cases number with
  | infinity sign => cases checked
  | notANumber => cases checked
  | zero sign => exact .zero sign
  | finite sign significand exponent positive =>
      have small := magnitude_le_iff.2 (of_decide_eq_true checked)
      rw [Nat.cast_pow, Nat.cast_ofNat] at small
      exact .finite sign positive small

/-- Whether a number is at least one. -/
def checkAtLeastOne : UnpackedFloat → Bool
  | .finite _ significand exponent _ =>
      2 ^ (-exponent).toNat ≤ significand * 2 ^ exponent.toNat
  | .zero _ => false
  | .infinity _ => false
  | .notANumber => false

theorem atLeastOne_of_check {number : UnpackedFloat}
    (checked : checkAtLeastOne number = true) : AtLeastOne number := by
  cases number with
  | infinity sign => cases checked
  | notANumber => cases checked
  | zero sign => cases checked
  | finite sign significand exponent positive =>
      have compared := of_decide_eq_true checked
      rw [← Nat.one_mul (2 ^ (-exponent).toNat)] at compared
      have large := le_magnitude_iff.2 compared
      rw [Nat.cast_one] at large
      exact .finite sign positive large

theorem atMost_ofScientific {bound number : Nat} (exact : bound ≤ exactPowers)
    (small : number ≤ 10 ^ bound) :
    AtMost bound (UnpackedFloat.ofScientific .binary64 number 0) := by
  have cast : (number : ℚ) ≤ 10 ^ bound := by exact_mod_cast small
  unfold UnpackedFloat.ofScientific
  split
  · exact .zero _
  · rename_i nonzero
    have positive : 0 < number := Nat.pos_of_ne_zero nonzero
    have high : ¬ (0 : Int) > 2 ^ 11 := by norm_num
    have low : ¬ (0 : Int) < -((2 ^ 11 : Int) + number.log2) := by
      have bits := Int.natCast_nonneg number.log2
      omega
    rw [if_neg high, if_neg low, if_pos (Int.le_refl 0)]
    refine atMost_mul_one exact (.finite _ _ ?_) (.finite _ _ ?_)
    · change magnitude (number <<< 53) (-53) ≤ 10 ^ bound
      unfold magnitude
      rw [Nat.shiftLeft_eq, Nat.cast_mul, mul_assoc]
      norm_num
      exact cast
    · change magnitude 1 0 ≤ 10 ^ 0
      norm_num [magnitude]

/-- The powers of ten that are floating-point numbers are exact. -/
theorem isAtMost_powerOfTen {exponent : Nat} (exact : exponent ≤ exactPowers) :
    IsAtMost exponent (JsonNumber.powerOfTen exponent) := by
  have all : ∀ power : Fin (exactPowers + 1),
      checkAtMost power.val
        (JsonNumber.powerOfTen power.val).toModel.unpack = true := by
    decide +kernel
  exact atMost_of_check (all ⟨exponent, Nat.lt_succ_of_le exact⟩)

theorem atLeastOne_powerOfTen {exponent : Nat}
    (small : exponent ≤ JsonNumber.largestPower) :
    AtLeastOne (JsonNumber.powerOfTen exponent).toModel.unpack := by
  have all : ∀ power : Fin (JsonNumber.largestPower + 1),
      checkAtLeastOne
        (JsonNumber.powerOfTen power.val).toModel.unpack = true := by
    decide +kernel
  exact atLeastOne_of_check (all ⟨exponent, Nat.lt_succ_of_le small⟩)

/-- A whole number is rounded to a number that is at most the same power of
ten. -/
theorem isAtMost_ofNat {bound number : Nat} (exact : bound ≤ exactPowers)
    (small : number ≤ 10 ^ bound) : IsAtMost bound (Float.ofNat number) := by
  change IsAtMost bound (Float.ofScientific number false 0)
  unfold Float.ofScientific
  split
  · rename_i few
    have one : IsAtMost 0 Float.exactlyRepresentablePowersOfTen[0] :=
      atMost_of_check (by decide +kernel)
    have converted : IsAtMost bound number.toUInt64.toFloat := by
      have same : number.toUInt64.toNat = number :=
        UInt64.toNat_ofNat_of_lt (lt_trans few.1 (by decide))
      apply atMost_unpack_model exact
      change AtMost bound
        (UnpackedFloat.ofNat .binary64 number.toUInt64.toNat)
      rw [same]
      exact atMost_ofNat exact small
    exact IsAtMost.mul exact converted one
  · exact atMost_unpack_model exact (atMost_ofScientific exact small)

end CgroupMeter.FloatBound
