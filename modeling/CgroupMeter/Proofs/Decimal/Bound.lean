import CgroupMeter.Decimal.Shortest
import CgroupMeter.Proofs.Float.Bound

/-!
# Shortest decimals up to a power of ten

The shortest decimal of a number that is at most the twenty-second power of ten
is at most that power too.  That power is itself a floating-point number, so
the numbers below it have a neighbour that is no larger, and whatever rounds to
them lies before it.
-/

namespace CgroupMeter

namespace Decimal

open FloatBound

/-! ## Digits -/

theorem valueFrom_append (start : Nat) (first second : List Digit) :
    valueFrom start (first ++ second) =
      valueFrom (valueFrom start first) second := by
  simp [valueFrom]

/-- Digits after a number shift it. -/
theorem valueFrom_eq (start : Nat) (digits : List Digit) :
    valueFrom start digits = start * 10 ^ digits.length + value digits := by
  induction digits generalizing start with
  | nil => simp [valueFrom, value]
  | cons digit digits ih =>
      have split : ∀ number, valueFrom number (digit :: digits) =
          valueFrom (number * 10 + digit.val) digits := fun number => rfl
      rw [split, value, split, ih, ih, List.length_cons, pow_succ]
      ring

theorem value_lt (digits : List Digit) : value digits < 10 ^ digits.length := by
  induction digits with
  | nil => simp [value, valueFrom]
  | cons digit digits ih =>
      have split : value (digit :: digits) = valueFrom digit.val digits := by
        simp [value, valueFrom]
      rw [split, valueFrom_eq, List.length_cons, pow_succ]
      have small := digit.isLt
      nlinarith

theorem length_digitsOnto_le {number count : Nat} (after : List Digit)
    (small : number < 10 ^ (count + 1)) :
    (digitsOnto number after).length ≤ count + 1 + after.length := by
  induction number, after using digitsOnto.induct generalizing count with
  | case1 number after single =>
      rw [digitsOnto, dif_pos single, List.length_cons]
      omega
  | case2 number after large ih =>
      rw [digitsOnto, dif_neg large]
      cases count with
      | zero => omega
      | succ count =>
          have shorter : number / 10 < 10 ^ (count + 1) :=
            Nat.div_lt_of_lt_mul (by rw [pow_succ] at small; omega)
          apply (ih shorter).trans
          rw [List.length_cons]
          omega

theorem length_digits_le {number count : Nat}
    (small : number < 10 ^ (count + 1)) :
    (digits number).length ≤ count + 1 :=
  length_digitsOnto_le [] small

/-- A number reaches the power of ten of its first digit. -/
theorem exists_leading {number : Nat} (after : List Digit)
    (positive : 0 < number) :
    ∃ leading, (digitsOnto number after).length = leading + 1 + after.length ∧
      10 ^ leading ≤ number := by
  induction number, after using digitsOnto.induct with
  | case1 number after single =>
      refine ⟨0, ?_, positive⟩
      rw [digitsOnto, dif_pos single, List.length_cons]
      omega
  | case2 number after large ih =>
      rcases ih (by omega) with ⟨leading, count, reached⟩
      refine ⟨leading + 1, ?_, ?_⟩
      · rw [digitsOnto, dif_neg large, count, List.length_cons]
        omega
      · rw [pow_succ]
        omega

/-! ## Grids -/

namespace Binary

/-- A grid compares the multiples of a power of ten with the ends of the
interval. -/
theorem mul_step_le_iff (binary : Binary) (exponent : Int)
    (count quarters : Nat) :
    count * (binary.grid exponent).step ≤
        quarters * (powerOfTwo (binary.exponent - 2).toNat *
          powerOfTen (-exponent).toNat) ↔
      (count : ℚ) * 10 ^ exponent ≤ magnitude quarters (binary.exponent - 2) := by
  have two : (2 : ℚ) ^ (binary.exponent - 2) *
      2 ^ (-(binary.exponent - 2)).toNat =
        2 ^ (binary.exponent - 2).toNat := by
    rw [← zpow_natCast, ← zpow_natCast, ← zpow_add₀ two_ne_zero]
    congr 1
    omega
  have ten : (10 : ℚ) ^ exponent * 10 ^ (-exponent).toNat =
      10 ^ exponent.toNat := by
    rw [← zpow_natCast, ← zpow_natCast, ← zpow_add₀ (by norm_num)]
    congr 1
    omega
  have scale : (0 : ℚ) < 2 ^ (-(binary.exponent - 2)).toNat *
      10 ^ (-exponent).toNat := by
    positivity
  rw [← mul_le_mul_iff_left₀ scale]
  have left : (count : ℚ) * 10 ^ exponent *
      (2 ^ (-(binary.exponent - 2)).toNat * 10 ^ (-exponent).toNat) =
        ((count * (binary.grid exponent).step : Nat) : ℚ) := by
    simp only [grid, powerOfTwo, powerOfTen, Nat.pow_eq]
    push_cast
    rw [← ten]
    ring
  have right : magnitude quarters (binary.exponent - 2) *
      (2 ^ (-(binary.exponent - 2)).toNat * 10 ^ (-exponent).toNat) =
        ((quarters * (powerOfTwo (binary.exponent - 2).toNat *
          powerOfTen (-exponent).toNat) : Nat) : ℚ) := by
    simp only [magnitude, powerOfTwo, powerOfTen, Nat.pow_eq]
    push_cast
    rw [← two]
    ring
  rw [left, right, Nat.cast_le]

theorem le_of_holds {binary : Binary} {exponent : Int} {count : Nat}
    (holds : (binary.grid exponent).holds count = true) :
    (count : ℚ) * 10 ^ exponent ≤
      magnitude (4 * binary.significand + 2) (binary.exponent - 2) := by
  apply (binary.mul_step_le_iff exponent count _).1
  have upper : count * (binary.grid exponent).step ≤
      (binary.grid exponent).high := by
    unfold Grid.holds at holds
    split at holds
    · simp only [Bool.and_eq_true, decide_eq_true_eq] at holds
      exact holds.2
    · simp only [Bool.and_eq_true, decide_eq_true_eq] at holds
      exact holds.2.le
  exact upper

theorem holds_of_nearest? {grid : Grid} {count : Nat}
    (nearest : grid.nearest? = some count) : grid.holds count = true := by
  unfold Grid.nearest? at nearest
  simp only at nearest
  split at nearest
  · cases nearest
  · cases nearest
    assumption
  · cases nearest
    assumption
  · rename_i below above
    split at nearest
    · cases nearest
      exact below
    · split at nearest
      · cases nearest
        exact above
      · split at nearest
        · cases nearest
          exact below
        · cases nearest
          exact above

theorem floor_le (binary : Binary) (exponent : Int) :
    (((binary.grid exponent).middle / (binary.grid exponent).step : Nat) : ℚ) *
        10 ^ exponent ≤
      magnitude (4 * binary.significand) (binary.exponent - 2) := by
  apply (binary.mul_step_le_iff exponent _ _).1
  exact Nat.div_mul_le_self _ _

theorem magnitude_quarters (significand : Nat) (exponent : Int) :
    magnitude (4 * significand) (exponent - 2) =
      magnitude significand exponent := by
  have split : exponent = (exponent - 2) + 2 := by omega
  unfold magnitude
  rw [split, zpow_add₀ two_ne_zero, ← split]
  push_cast
  ring

/-- What rounds to a number below a power of ten is no larger than that
power. -/
theorem upper_le {binary : Binary} {bound : Nat}
    (coarse : binary.exponent ≤ bound)
    (small : magnitude binary.significand binary.exponent < 10 ^ bound) :
    magnitude (4 * binary.significand + 2) (binary.exponent - 2) ≤
      10 ^ bound := by
  rcases exists_steps bound coarse with ⟨steps, whole⟩
  have below : binary.significand + 1 ≤ steps := by
    rw [← whole] at small
    unfold magnitude at small
    have cancelled :=
      lt_of_mul_lt_mul_right small (zpow_nonneg zero_le_two _)
    exact_mod_cast cancelled
  calc magnitude (4 * binary.significand + 2) (binary.exponent - 2)
      ≤ magnitude (4 * (binary.significand + 1)) (binary.exponent - 2) :=
        magnitude_mono (by omega) _
    _ = magnitude (binary.significand + 1) binary.exponent :=
        magnitude_quarters _ _
    _ ≤ magnitude steps binary.exponent := magnitude_mono below _
    _ = 10 ^ bound := whole

/-! ## Shortest decimals -/

/-- What a shortest decimal may be: no larger than a power of ten, and with an
exponent between two others. -/
structure Bounded (decimal : Decimal) (bound : Nat) (least most : Int) :
    Prop where
  small : (decimal.coefficient : ℚ) * 10 ^ decimal.exponent ≤ 10 ^ bound
  fine : least ≤ decimal.exponent
  coarse : decimal.exponent ≤ most

/-- The search for the shortest decimal stays below a power of ten. -/
theorem bounded_shortestFrom {binary : Binary} {bound : Nat}
    (upper : magnitude (4 * binary.significand + 2) (binary.exponent - 2) ≤
      10 ^ bound) (finer : Nat) (exponent : Int) :
    Bounded (binary.shortestFrom finer exponent) bound (exponent - finer)
      exponent := by
  induction finer generalizing exponent with
  | zero =>
      refine ⟨?_, by simp [shortestFrom], by simp [shortestFrom]⟩
      calc _ ≤ magnitude (4 * binary.significand) (binary.exponent - 2) :=
            binary.floor_le exponent
        _ ≤ _ := (magnitude_mono (Nat.le_add_right _ _) _).trans upper
  | succ finer ih =>
      rw [shortestFrom]
      cases nearest : (binary.grid exponent).nearest? with
      | some count =>
          refine ⟨?_, by simp only; omega, by simp only; omega⟩
          exact (le_of_holds (holds_of_nearest? nearest)).trans upper
      | none =>
          have next := ih (exponent - 1)
          have fine := next.fine
          have coarse := next.coarse
          exact ⟨next.small, by push_cast; omega, coarse.trans (by omega)⟩

theorem leading_le {binary : Binary} {bound : Nat}
    (small : magnitude binary.significand binary.exponent ≤ 10 ^ bound) :
    (binary.grid 0).leading ≤ bound := by
  unfold Grid.leading
  split
  · have floor := binary.floor_le 0
    rw [magnitude_quarters, zpow_zero, mul_one] at floor
    have whole : (binary.grid 0).middle / (binary.grid 0).step ≤ 10 ^ bound := by
      exact_mod_cast floor.trans small
    have count := length_digits_le
      (lt_of_le_of_lt whole (Nat.pow_lt_pow_right (by decide) bound.lt_succ_self))
    omega
  · omega

/-- The exponent of the smallest floating-point numbers. -/
def leastExponent : Int := -1074

theorem le_leading {binary : Binary}
    (fine : leastExponent ≤ binary.exponent) :
    leastExponent - 3 ≤ (binary.grid 0).leading := by
  unfold leastExponent at fine ⊢
  unfold Grid.leading
  split
  · omega
  · generalize size : (-(binary.exponent - 2)).toNat = bits
    have step : (binary.grid 0).step = 2 ^ bits := by
      rw [← size]
      simp [grid, powerOfTwo, powerOfTen]
    have few : ((binary.grid 0).step - 1) / (binary.grid 0).middle <
        10 ^ (bits + 1) := by
      calc ((binary.grid 0).step - 1) / (binary.grid 0).middle
          ≤ (binary.grid 0).step - 1 := Nat.div_le_self _ _
        _ ≤ 2 ^ bits := by
            rw [step]
            exact Nat.sub_le _ _
        _ ≤ 10 ^ bits := Nat.pow_le_pow_left (by decide) bits
        _ < 10 ^ (bits + 1) := Nat.pow_lt_pow_right (by decide) bits.lt_succ_self
    have count := length_digits_le few
    omega

/-- The magnitudes that a floating-point number can have: with 53 bits, unless
it is among the smallest. -/
structure Normal (binary : Binary) : Prop where
  bits : binary.significand < 2 ^ 53
  fine : leastExponent ≤ binary.exponent
  full : binary.exponent ≠ leastExponent → binary.significand.log2 = 52
  narrow : binary.narrowBelow = true → binary.significand = 2 ^ 52

/-- The twenty-second power of ten. -/
def largestExact : Binary := ⟨2 * 5 ^ 22, 21, false⟩

/-- The twenty-second power of ten has one form. -/
theorem Normal.eq_largestExact {binary : Binary} (normal : binary.Normal)
    (equal : magnitude binary.significand binary.exponent = 10 ^ exactPowers) :
    binary = largestExact := by
  have least : binary.exponent ≠ leastExponent := by
    intro least
    have exponent : binary.exponent ≤ -53 := by
      rw [least]
      decide
    have tiny := magnitude_tiny 0 normal.bits exponent
    rw [equal] at tiny
    norm_num [exactPowers] at tiny
  have log := normal.full least
  have positive : binary.significand ≠ 0 := by
    intro zero
    rw [zero] at log
    cases log
  have low := Nat.log2_self_le positive
  rw [log] at low
  have lowCast : (2 : ℚ) ^ (52 : Int) ≤ binary.significand := by
    exact_mod_cast low
  have highCast : (binary.significand : ℚ) < 2 ^ (53 : Int) := by
    exact_mod_cast normal.bits
  unfold magnitude at equal
  have step : (0 : ℚ) < 2 ^ binary.exponent := zpow_pos two_pos _
  have below : (2 : ℚ) ^ (52 + binary.exponent) < 2 ^ (74 : Int) := by
    calc (2 : ℚ) ^ (52 + binary.exponent)
        = 2 ^ (52 : Int) * 2 ^ binary.exponent := zpow_add₀ two_ne_zero _ _
      _ ≤ binary.significand * 2 ^ binary.exponent := by gcongr
      _ = 10 ^ exactPowers := equal
      _ < 2 ^ (74 : Int) := by norm_num [exactPowers]
  have above : (2 : ℚ) ^ (73 : Int) < 2 ^ (53 + binary.exponent) := by
    calc (2 : ℚ) ^ (73 : Int) < 10 ^ exactPowers := by norm_num [exactPowers]
      _ = binary.significand * 2 ^ binary.exponent := equal.symm
      _ < 2 ^ (53 : Int) * 2 ^ binary.exponent := by gcongr
      _ = 2 ^ (53 + binary.exponent) := (zpow_add₀ two_ne_zero _ _).symm
  have belowExponent := (zpow_lt_zpow_iff_right₀ (by norm_num)).1 below
  have aboveExponent := (zpow_lt_zpow_iff_right₀ (by norm_num)).1 above
  have exponent : binary.exponent = 21 := by omega
  have significand : binary.significand = 2 * 5 ^ 22 := by
    rw [exponent] at equal
    have scaled : binary.significand * 2 ^ 21 = 10 ^ 22 := by
      exact_mod_cast equal
    omega
  have narrow : binary.narrowBelow = false := by
    cases narrow : binary.narrowBelow with
    | false => rfl
    | true =>
        have power := normal.narrow narrow
        rw [significand] at power
        norm_num at power
  rcases binary with ⟨significand, exponent, narrowBelow⟩
  simp_all [largestExact]

/-- The shortest decimal of a number that is at most the twenty-second power of
ten. -/
theorem bounded_shortest {binary : Binary} (normal : binary.Normal)
    (positive : 0 < binary.significand)
    (small : magnitude binary.significand binary.exponent ≤
      10 ^ exactPowers) :
    Bounded binary.shortest exactPowers (leastExponent - 20) exactPowers := by
  rcases eq_or_lt_of_le small with equal | less
  · rw [normal.eq_largestExact equal]
    have one : largestExact.shortest = ⟨1, 22⟩ := by decide +kernel
    rw [one]
    refine ⟨?_, by decide, by decide⟩
    norm_num [exactPowers]
  · have coarse : binary.exponent ≤ exactPowers := by
      by_cases least : binary.exponent = leastExponent
      · rw [least]
        decide
      · have total := totalExponent_le (Nat.le_refl exactPowers) positive small
        rw [Float.Model.totalExponent, normal.full least] at total
        omega
    have found := bounded_shortestFrom (upper_le coarse less) enoughDigits
      (binary.grid 0).leading
    have most := leading_le small
    have least := le_leading normal.fine
    have fine := found.fine
    have foundCoarse := found.coarse
    unfold enoughDigits at fine foundCoarse
    unfold exactPowers at most
    unfold shortest
    simp only
    split
    · rename_i ten
      have same := found.small
      rw [ten, Nat.cast_ofNat, mul_comm, ← zpow_add_one₀ (by norm_num)] at same
      refine ⟨?_, ?_, ?_⟩
      · rw [Nat.cast_one, one_mul]
        exact same
      · simp only
        unfold enoughDigits
        omega
      · rw [← zpow_natCast] at same
        exact (zpow_le_zpow_iff_right₀ (by norm_num)).1 same
    · refine ⟨found.small, ?_, ?_⟩
      · unfold enoughDigits
        omega
      · unfold enoughDigits exactPowers
        omega

end Binary

end Decimal

end CgroupMeter
