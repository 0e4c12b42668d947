import CgroupMeter.Counter
import Mathlib.Algebra.Ring.Nat

/-!
# Sums of counters that stay in range

A saturating sum with zero changes nothing, and one that stays in range is the
exact sum.
-/

namespace CgroupMeter.Counter

theorem eq_of_toNat {left right : Counter} (same : left.toNat = right.toNat) :
    left = right :=
  UInt64.toNat_inj.1 same

@[simp]
theorem clamp_zero : clamp 0 = 0 := rfl

@[simp]
theorem clamp_toNat (counter : Counter) : clamp counter.toNat = counter := by
  have small := toNat_le_bound counter
  apply eq_of_toNat
  rw [toNat_clamp]
  omega

@[simp]
theorem add_zero (counter : Counter) : add counter 0 = counter := by
  simp [add]

@[simp]
theorem zero_add (counter : Counter) : add 0 counter = counter := by
  simp [add]

theorem add_comm (left right : Counter) : add left right = add right left := by
  simp [add, Nat.add_comm]

@[simp]
theorem add_largest (counter : Counter) : add counter largest = largest := by
  have most : largest.toNat = bound := rfl
  apply eq_of_toNat
  rw [toNat_add, most]
  omega

@[simp]
theorem largest_add (counter : Counter) : add largest counter = largest := by
  rw [add_comm, add_largest]

/-- A sum that stays in range is the exact sum. -/
theorem ofNat_add {left right : Counter}
    (small : left.toNat + right.toNat < UInt64.size) :
    UInt64.ofNat (left.toNat + right.toNat) = add left right := by
  apply eq_of_toNat
  rw [UInt64.toNat_ofNat_of_lt' small, toNat_add]
  unfold bound
  have size : UInt64.size = 18446744073709551616 := rfl
  omega

@[simp]
theorem scale_zero (factor : Nat) : scale factor 0 = 0 := by
  simp [scale]

theorem exactSum_eq (counters : List Counter) :
    exactSum counters = (counters.map UInt64.toNat).sum := by
  induction counters with
  | nil => rfl
  | cons counter rest ih => rw [exactSum, ih, List.map_cons, List.sum_cons]

theorem exactSum_perm {first second : List Counter}
    (order : first.Perm second) : exactSum first = exactSum second := by
  induction order with
  | nil => rfl
  | cons counter _ ih => simp [exactSum, ih]
  | swap one other rest =>
      simp only [exactSum]
      omega
  | trans _ _ first second => exact first.trans second

/-- A sum of counters does not depend on their order. -/
theorem sum_perm {first second : List Counter} (order : first.Perm second) :
    sum first = sum second := by
  apply eq_of_toNat
  rw [toNat_sum, toNat_sum, exactSum_perm order]

end CgroupMeter.Counter
