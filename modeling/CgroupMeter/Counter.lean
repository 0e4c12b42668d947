/-!
# Saturating counters

The kernel's counters are unsigned numbers of 64 bits.  Sums, products and
differences of counters stay in that range: they stop at its ends and never
wrap.  Each operation is the exact one on natural numbers, clamped.
-/

namespace CgroupMeter

/-- A counter of the kernel: an unsigned number of 64 bits. -/
abbrev Counter := UInt64

namespace Counter

/-- The largest counter, which the kernel's files write as `max`. -/
def largest : Counter := 0xFFFFFFFFFFFFFFFF

/-- The largest counter as a natural number. -/
def bound : Nat := 18446744073709551615

/-- The counter nearest to a natural number. -/
def clamp (number : Nat) : Counter :=
  UInt64.ofNat (min number bound)

/-- The sum of two counters, at most the largest counter. -/
def add (left right : Counter) : Counter :=
  clamp (left.toNat + right.toNat)

/-- The growth from one counter to another, zero if it fell. -/
def growth (previous current : Counter) : Counter :=
  clamp (current.toNat - previous.toNat)

/-- A counter times a factor, at most the largest counter. -/
def scale (factor : Nat) (counter : Counter) : Counter :=
  clamp (counter.toNat * factor)

/-- The sum of counters, at most the largest counter. -/
def sum (counters : List Counter) : Counter :=
  counters.foldl add 0

/-- The exact sum of counters. -/
def exactSum : List Counter → Nat
  | [] => 0
  | counter :: rest => counter.toNat + exactSum rest

/-- Every counter is at most the largest one. -/
theorem toNat_le_bound (counter : Counter) : counter.toNat ≤ bound := by
  have less := counter.toNat_lt
  unfold bound
  omega

@[simp]
theorem toNat_clamp (number : Nat) :
    (clamp number).toNat = min number bound := by
  simp only [clamp, UInt64.toNat_ofNat', bound]
  omega

@[simp]
theorem toNat_add (left right : Counter) :
    (add left right).toNat = min (left.toNat + right.toNat) bound := by
  simp [add]

@[simp]
theorem toNat_growth (previous current : Counter) :
    (growth previous current).toNat = current.toNat - previous.toNat := by
  have small := toNat_le_bound current
  simp only [growth, toNat_clamp]
  omega

@[simp]
theorem toNat_scale (factor : Nat) (counter : Counter) :
    (scale factor counter).toNat = min (counter.toNat * factor) bound := by
  simp [scale]

theorem toNat_foldl_add (start : Counter) (counters : List Counter) :
    (counters.foldl add start).toNat =
      min (start.toNat + exactSum counters) bound := by
  induction counters generalizing start with
  | nil =>
      have small := toNat_le_bound start
      simp only [List.foldl_nil, exactSum]
      omega
  | cons counter rest ih =>
      rw [List.foldl_cons, ih]
      simp only [toNat_add, exactSum]
      omega

/-- A sum of counters is the exact sum, at most the largest counter. -/
@[simp]
theorem toNat_sum (counters : List Counter) :
    (sum counters).toNat = min (exactSum counters) bound := by
  simp [sum, toNat_foldl_add]

end Counter

end CgroupMeter
