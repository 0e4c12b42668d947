import CgroupMeter.Proofs.Decimal.Bound
import CgroupMeter.Proofs.Store.Document

/-!
# Numbers that are read again

A floating-point number that is written and read again may come back as another
one, because reading is not exact, and that one may come back as yet another.
Numbers that are at most the twenty-second power of ten always come back, and
as numbers that are at most that power: the decimal that is written is no
larger, and neither are the products and quotients that reading makes.
-/

namespace CgroupMeter

namespace Decimal.Binary

open FloatBound
open Float.Model (Format UnpackedFloat)
open Float.Model.UnpackedFloat

theorem toNat_unpackExponent (bits : UInt64) :
    (@unpackExponent .binary64 bits.toBitVec).toNat =
      (bits >>> 52).toNat % 2048 := by
  simp [unpackExponent, BitVec.extractLsb_toNat]

theorem toNat_unpackMantissa (bits : UInt64) :
    (@unpackMantissa .binary64 bits.toBitVec).toNat =
      bits.toNat % fractionSize := by
  simp [unpackMantissa, BitVec.extractLsb_toNat, fractionSize]

/-- The magnitude of a number that is at most a power of ten. -/
theorem exists_ofBits? {number : Float} (small : IsAtMost exactPowers number) :
    ∃ binary, ofBits? number.toBits = some binary ∧ binary.Normal ∧
      magnitude binary.significand binary.exponent ≤ 10 ^ exactPowers := by
  unfold IsAtMost Float.Model.unpack unpack at small
  change ∃ binary, ofBits? number.toModel.toBits = some binary ∧ _
  generalize number.toModel.toBits = bits at small ⊢
  have exponentBits := toNat_unpackExponent bits
  have mantissaBits := toNat_unpackMantissa bits
  generalize @unpackExponent .binary64 bits.toBitVec = exponent at *
  simp only at small
  have fractionSmall : bits.toNat % fractionSize < 2 ^ 52 :=
    Nat.mod_lt _ (by decide)
  unfold ofBits?
  generalize bits.toNat % fractionSize = fraction at mantissaBits fractionSmall ⊢
  simp only [← exponentBits]
  split at small
  · split at small
    · cases small
    · cases small
  · rename_i finite
    have notLast : exponent.toNat ≠ 2047 := by
      intro last
      exact finite (BitVec.eq_of_toNat_eq last)
    rw [if_neg notLast]
    split at small
    · rename_i zero
      have least : exponent.toNat = 0 := congrArg BitVec.toNat zero
      rw [if_pos least]
      refine ⟨_, rfl, ⟨?_, ?_, ?_, ?_⟩, ?_⟩
      · exact lt_trans fractionSmall (by decide)
      · exact Int.le_refl (-1074)
      · intro differs
        exact absurd rfl differs
      · intro narrow
        cases narrow
      · have tiny : (-1074 : Int) ≤ -53 := by decide
        exact magnitude_tiny _ (lt_trans fractionSmall (by decide)) tiny
    · rename_i notZero
      have notLeast : exponent.toNat ≠ 0 := by
        intro least
        exact notZero (BitVec.eq_of_toNat_eq least)
      rw [if_neg notLeast]
      have significand :
          (1#1 ++ @unpackMantissa .binary64 bits.toBitVec).toNat =
            fractionSize + fraction := by
        rw [BitVec.toNat_append, mantissaBits,
          ← Nat.shiftLeft_add_eq_or_of_lt fractionSmall]
        rfl
      have log : (fractionSize + fraction).log2 = 52 := by
        apply (Nat.log2_eq_iff (by unfold fractionSize; omega)).2
        unfold fractionSize
        omega
      have range := exponent.isLt
      refine ⟨_, rfl, ⟨?_, ?_, ?_, ?_⟩, ?_⟩
      · simp only [fractionSize]
        omega
      · simp only [leastExponent]
        omega
      · intro differs
        exact log
      · intro narrow
        simp only [Bool.and_eq_true, decide_eq_true_eq] at narrow
        simp only [narrow.1]
        rfl
      · cases small with
        | finite sign positive small =>
            rw [significand] at small
            exact small

end Decimal.Binary

namespace JsonNumber

open Decimal FloatBound

/-! ## Digits of a significand -/

theorem gather_le (start : Nat) (digits : List Digit) :
    (gather start digits).2 ≤ digits.length ∧
      (gather start digits).1 *
          10 ^ (digits.length - (gather start digits).2) ≤
        valueFrom start digits := by
  induction digits generalizing start with
  | nil => simp [gather, valueFrom]
  | cons digit rest ih =>
      rw [gather]
      simp only
      split
      · have next := ih (start * 10 + digit.val)
        refine ⟨Nat.succ_le_succ next.1, ?_⟩
        rw [List.length_cons, Nat.add_sub_add_right]
        exact next.2
      · refine ⟨Nat.zero_le _, ?_⟩
        rw [valueFrom_eq, Nat.sub_zero]
        exact Nat.le_add_right _ _

theorem gather_lt {start : Nat} (small : start < UInt64.size)
    (digits : List Digit) : (gather start digits).1 < UInt64.size := by
  induction digits generalizing start with
  | nil => exact small
  | cons digit rest ih =>
      rw [gather]
      simp only
      split
      · rename_i next
        exact ih next
      · exact small

theorem gather_all {start : Nat} {digits : List Digit}
    (small : valueFrom start digits < UInt64.size) :
    gather start digits = (valueFrom start digits, digits.length) := by
  induction digits generalizing start with
  | nil => rfl
  | cons digit rest ih =>
      have split : valueFrom start (digit :: rest) =
          valueFrom (start * 10 + digit.val) rest := rfl
      rw [split] at small ⊢
      have next : start * 10 + digit.val < UInt64.size := by
        refine lt_of_le_of_lt ?_ small
        rw [valueFrom_eq]
        refine le_trans ?_ (Nat.le_add_right _ _)
        exact Nat.le_mul_of_pos_right _ (by positivity)
      rw [gather]
      simp only
      rw [if_pos next, ih small, List.length_cons]

/-! ## Scaling -/

theorem exists_scaleByTen_of_nonneg (steps : Nat) {number : Float}
    {exponent : Nat} (few : exponent ≤ exactPowers)
    (small : IsAtMost (exactPowers - exponent) number) :
    ∃ found, scaleByTen (steps + 1) number exponent = some found ∧
      IsAtMost exactPowers found := by
  have split : exactPowers - exponent + exponent = exactPowers :=
    Nat.sub_add_cancel few
  have product : IsAtMost exactPowers (number * powerOfTen exponent) := by
    have both := IsAtMost.mul (Nat.le_of_eq split) small
      (isAtMost_powerOfTen few)
    rwa [split] at both
  refine ⟨number * powerOfTen exponent, ?_, product⟩
  have inTable : (exponent : Int).natAbs ≤ largestPower := by
    rw [Int.natAbs_natCast]
    exact few.trans (by decide)
  rw [scaleByTen, if_pos inTable, if_pos (Int.natCast_nonneg exponent),
    Int.natAbs_natCast]
  simp only [product.isInf_eq_false]
  rfl

theorem exists_scaleByTen_of_neg {steps : Nat} {number : Float} {exponent : Int}
    (small : IsAtMost exactPowers number) (negative : exponent < 0)
    (enough : -(largestPower * steps : Nat) ≤ exponent) :
    ∃ found, scaleByTen steps number exponent = some found ∧
      IsAtMost exactPowers found := by
  induction steps generalizing number exponent with
  | zero => omega
  | succ steps ih =>
      rw [scaleByTen]
      have divided : ∀ power, power ≤ largestPower →
          IsAtMost exactPowers (number / powerOfTen power) := by
        intro power inTable
        exact IsAtMost.div (Nat.le_refl _) small (atLeastOne_powerOfTen inTable)
      split
      · rename_i inTable
        rw [if_neg (Int.not_le.2 negative)]
        exact ⟨_, rfl, divided _ inTable⟩
      · rename_i further
        split
        · exact ⟨number, rfl, small⟩
        · rw [if_neg (Int.not_le.2 negative)]
          unfold largestPower at further enough
          refine ih (divided _ (Nat.le_refl _)) ?_ ?_
          · unfold largestPower
            omega
          · unfold largestPower
            push_cast at enough ⊢
            omega

theorem exists_magnitude? {significand : Nat} {shift : Int}
    {written : Option Int} (bits : significand < UInt64.size)
    (value : (significand : ℚ) * 10 ^ (shift + written.getD 0) ≤
      10 ^ exactPowers)
    (back : shift ≤ 0) (fine : -1200 ≤ shift + written.getD 0)
    (coarse : written.getD 0 ≤ exactPowers) :
    ∃ found, magnitude? significand shift written = some found ∧
      IsAtMost exactPowers found := by
  unfold magnitude?
  simp only
  generalize written.getD 0 = exponent at value fine coarse ⊢
  have few : shift + exponent ≤ (exactPowers : Int) := by omega
  unfold exactPowers at coarse few
  have range : ¬ exponentBound ≤ exponent.natAbs := by
    unfold exponentBound
    omega
  have clamped : clampExponent (shift + exponent) = shift + exponent := by
    unfold clampExponent exponentBound
    omega
  rw [if_neg range, clamped]
  rcases Int.lt_or_le (shift + exponent) 0 with negative | nonneg
  · have whole : significand ≤ 10 ^ exactPowers :=
      bits.le.trans (by decide)
    refine exists_scaleByTen_of_neg
      (isAtMost_ofNat (Nat.le_refl _) whole) negative ?_
    unfold largestPower
    omega
  · rcases Int.eq_ofNat_of_zero_le nonneg with ⟨power, total⟩
    rw [total] at value few ⊢
    have inTable : power ≤ exactPowers := by
      unfold exactPowers
      omega
    apply exists_scaleByTen_of_nonneg 3 inTable
    apply isAtMost_ofNat (Nat.sub_le _ _)
    rw [zpow_natCast] at value
    have product : significand * 10 ^ power ≤ 10 ^ exactPowers := by
      exact_mod_cast value
    refine Nat.le_of_mul_le_mul_right ?_ (show 0 < 10 ^ power by positivity)
    rw [← pow_add, Nat.sub_add_cancel inTable]
    exact product

/-! ## Numbers that are written -/

/-- A written number whose significand and exponents reading can hold. -/
structure Readable (number : JsonNumber) : Prop where
  whole : number.whole < UInt64.size
  small : (valueFrom number.whole number.fraction : ℚ) *
    10 ^ (number.exponent.getD 0 - number.fraction.length) ≤ 10 ^ exactPowers
  fine : -1200 ≤ number.exponent.getD 0 - number.fraction.length
  coarse : number.exponent.getD 0 ≤ exactPowers

theorem exists_toFloat? {number : JsonNumber} (readable : number.Readable) :
    ∃ found, number.toFloat? = some found ∧ IsAtMost exactPowers found := by
  have small := readable.small
  have fine := readable.fine
  have coarse := readable.coarse
  have front : gather 0 (digits number.whole) =
      (number.whole, (digits number.whole).length) := by
    rw [gather_all]
    · exact congrArg (·, _) (value_digits number.whole)
    · exact lt_of_le_of_lt (Nat.le_of_eq (value_digits number.whole))
        readable.whole
  have taken := gather_le number.whole number.fraction
  have bits := gather_lt readable.whole number.fraction
  unfold toFloat?
  simp only [front]
  generalize gather number.whole number.fraction = gathered at taken bits ⊢
  rcases gathered with ⟨significand, places⟩
  simp only at taken bits ⊢
  rw [Nat.sub_self, Nat.cast_zero, zero_sub]
  have value : (significand : ℚ) * 10 ^ (-(places : Int) +
      number.exponent.getD 0) ≤ 10 ^ exactPowers := by
    refine le_trans ?_ small
    have cast : (significand : ℚ) * 10 ^ (number.fraction.length - places) ≤
        valueFrom number.whole number.fraction := by
      exact_mod_cast taken.2
    have powers : (10 : ℚ) ^ (-(places : Int) + number.exponent.getD 0) =
        10 ^ (number.fraction.length - places) *
          10 ^ (number.exponent.getD 0 - number.fraction.length) := by
      rw [← zpow_natCast, ← zpow_add₀ (by norm_num)]
      congr 1
      have fewer := taken.1
      omega
    rw [powers, ← mul_assoc]
    gcongr
  have fewer := taken.1
  rcases exists_magnitude? bits value (by omega) (by omega) coarse with
    ⟨found, read, bounded⟩
  rw [read]
  refine ⟨_, rfl, ?_⟩
  split
  · exact bounded.neg (Nat.le_refl _)
  · exact bounded

/-! ## Decimals that are written -/

theorem valueFrom_zeros (start count : Nat) :
    valueFrom start (List.replicate count 0) = start * 10 ^ count := by
  induction count generalizing start with
  | zero => simp [valueFrom]
  | succ count ih =>
      have split : valueFrom start (List.replicate (count + 1) 0) =
          valueFrom (start * 10) (List.replicate count 0) := rfl
      rw [split, ih, pow_succ]
      ring

theorem valueFrom_take_drop (digits : List Digit) (count : Nat) :
    valueFrom (value (digits.take count)) (digits.drop count) =
      value digits := by
  rw [value, ← valueFrom_append, List.take_append_drop]
  rfl

theorem size_pos : 0 < UInt64.size := by decide

theorem value_lt_size {digits : List Digit} (few : digits.length ≤ 16) :
    value digits < UInt64.size :=
  calc value digits < 10 ^ digits.length := value_lt digits
    _ ≤ 10 ^ 16 := Nat.pow_le_pow_right (by decide) few
    _ < UInt64.size := by decide

variable {negative : Bool} {digits : List Digit} {exponent : Int}

/-- Digits with a point among them denote the decimal that they write. -/
theorem readable_positional
    (small : (value digits : ℚ) * 10 ^ exponent ≤ 10 ^ exactPowers)
    (fine : -1200 ≤ exponent) (few : digits.length + exponent ≤ 16) :
    (positional negative digits (digits.length + exponent)).Readable := by
  unfold positional
  split
  · rename_i before
    have length : (List.replicate (-(digits.length + exponent)).toNat 0 ++
        digits).length = -exponent := by
      rw [List.length_append, List.length_replicate]
      omega
    have same : valueFrom 0 (List.replicate (-(digits.length + exponent)).toNat
        0 ++ digits) = value digits := by
      rw [valueFrom_append, valueFrom_zeros, Nat.zero_mul]
      rfl
    refine ⟨size_pos, ?_, ?_, Int.natCast_nonneg exactPowers⟩
    · rw [same, length, Option.getD_none, Int.zero_sub, Int.neg_neg]
      exact small
    · rw [length, Option.getD_none]
      omega
  · split
    · rename_i after
      have nonneg : 0 ≤ exponent := by omega
      have zeros : (digits.length + exponent - digits.length).toNat =
          exponent.toNat := by
        congr 1
        omega
      have same : value (digits ++ List.replicate exponent.toNat 0) =
          value digits * 10 ^ exponent.toNat := by
        rw [value, valueFrom_append, valueFrom_zeros]
        rfl
      simp only [zeros]
      refine ⟨?_, ?_, by simp, Int.natCast_nonneg exactPowers⟩
      · apply value_lt_size
        rw [List.length_append, List.length_replicate]
        omega
      · have ten : valueFrom (value (digits ++ List.replicate exponent.toNat 0))
            [0] = value digits * 10 ^ exponent.toNat * 10 := by
          rw [same]
          rfl
        rw [ten]
        rw [← Int.toNat_of_nonneg nonneg, zpow_natCast] at small
        push_cast
        simpa using small
    · rename_i front within
      have length : (digits.drop (digits.length + exponent).toNat).length =
          -exponent := by
        rw [List.length_drop]
        omega
      refine ⟨?_, ?_, ?_, Int.natCast_nonneg exactPowers⟩
      · apply value_lt_size
        rw [List.length_take]
        omega
      · rw [valueFrom_take_drop, length, Option.getD_none, Int.zero_sub,
          Int.neg_neg]
        exact small
      · rw [length, Option.getD_none]
        omega

/-- Digits with an exponent denote the decimal that they write. -/
theorem readable_scientific
    (small : (value digits : ℚ) * 10 ^ exponent ≤ 10 ^ exactPowers)
    (fine : -1200 ≤ exponent)
    (coarse : digits.length + exponent - 1 ≤ exactPowers)
    (some_digit : 1 ≤ digits.length) :
    (scientific negative digits (digits.length + exponent - 1)).Readable := by
  unfold scientific
  have length : digits.length + exponent - 1 - (digits.drop 1).length =
      exponent := by
    rw [List.length_drop]
    omega
  refine ⟨?_, ?_, ?_, coarse⟩
  · apply value_lt_size
    rw [List.length_take]
    omega
  · rw [valueFrom_take_drop, Option.getD_some, length]
    exact small
  · rw [Option.getD_some, length]
    exact fine

theorem readable_ofDecimal {decimal : Decimal} {least : Int}
    (bounded : Binary.Bounded decimal exactPowers least exactPowers)
    (fine : -1200 ≤ least) : (ofDecimal negative decimal).Readable := by
  have small := bounded.small
  have enough := fine.trans bounded.fine
  rw [← value_digits decimal.coefficient] at small
  unfold ofDecimal
  simp only
  split
  · rename_i inRange
    simp only [isPositional, Bool.and_eq_true, decide_eq_true_eq] at inRange
    exact readable_positional small enough (by omega)
  · have someDigit : 1 ≤ (Decimal.digits decimal.coefficient).length :=
      List.length_pos_iff.2 (digits_ne_nil _)
    refine readable_scientific small enough ?_ someDigit
    -- The bound on the decimal says nothing of the exponent of a zero.
    rcases Nat.eq_zero_or_pos decimal.coefficient with zero | positive
    · have single : (Decimal.digits decimal.coefficient).length = 1 := by
        rw [zero, Decimal.digits, digitsOnto, dif_pos (by decide)]
        rfl
      have coarse := bounded.coarse
      omega
    · rcases exists_leading [] positive with ⟨leading, count, reached⟩
      have length : (Decimal.digits decimal.coefficient).length =
          leading + 1 := count
      rw [value_digits] at small
      have first : (10 : ℚ) ^ ((leading : Int) + decimal.exponent) ≤
          10 ^ ((exactPowers : Nat) : Int) := by
        rw [zpow_natCast]
        calc (10 : ℚ) ^ ((leading : Int) + decimal.exponent)
            = (10 ^ leading : Nat) * 10 ^ decimal.exponent := by
              rw [zpow_add₀ (by norm_num), zpow_natCast]
              push_cast
              rfl
          _ ≤ decimal.coefficient * 10 ^ decimal.exponent := by gcongr
          _ ≤ 10 ^ exactPowers := small
      have most := (zpow_le_zpow_iff_right₀ (by norm_num)).1 first
      omega

theorem exists_ofFloat? {number : Float}
    (small : IsAtMost exactPowers number) :
    ∃ written, ofFloat? number = some written ∧ written.Readable := by
  rcases Binary.exists_ofBits? small with ⟨binary, bits, normal, bounded⟩
  rw [ofFloat?, bits]
  by_cases zero : binary.significand = 0
  · refine ⟨⟨signBit number, 0, [0], none⟩, if_pos zero, size_pos, ?_, ?_,
      Int.natCast_nonneg exactPowers⟩
    · simp [valueFrom]
    · simp
  · refine ⟨ofDecimal (signBit number) binary.shortest, if_neg zero, ?_⟩
    have shortest := Binary.bounded_shortest normal (Nat.pos_of_ne_zero zero)
      bounded
    exact readable_ofDecimal shortest (by decide)

/-- A number that is at most the twenty-second power of ten is read again, as
one that is at most that power. -/
theorem exists_reread {number : Float} (small : IsAtMost exactPowers number) :
    ∃ found, reread? number = some found ∧ IsAtMost exactPowers found := by
  rcases exists_ofFloat? small with ⟨written, write, readable⟩
  rcases exists_toFloat? readable with ⟨found, read, bounded⟩
  refine ⟨found, ?_, bounded⟩
  rw [reread?, write]
  exact read

end JsonNumber

end CgroupMeter
