import CgroupMeter.Proofs.Metrics.Growth
import Mathlib.Algebra.Order.Field.Rat
import Mathlib.Tactic.FieldSimp
import Mathlib.Tactic.GCongr
import Mathlib.Tactic.Linarith
import Mathlib.Tactic.Positivity
import Mathlib.Tactic.Ring

/-!
# CPU rates without rounding

Computed in exact numbers, a CPU rate is the share that a group has used of the
CPU time that was there, times the number of CPUs.  It is at most what all CPUs
can do, it follows the counter it is made from, and no number is ever divided
by one that is not positive.
-/

namespace CgroupMeter

/-- The rational numbers.  What dividing by a number that is not positive
yields is left open. -/
@[reducible]
def exactNumbers (undivided : ℚ → ℚ → ℚ) : RateNumber ℚ where
  ofNat number := number
  below left right := decide (left < right)
  mul left right := left * right
  div left right := if 0 < right then left / right else undivided left right

/-- A kind of CPU time that is shown as a percentage. -/
inductive CpuUse where
  | total
  | kernel
  | user

namespace CpuUse

/-- The counter of a kind of CPU time. -/
def counter : CpuUse → ComparedCounter
  | .total => .total
  | .kernel => .kernel
  | .user => .user

theorem counter_ne_host (use : CpuUse) : use.counter ≠ .host := by
  cases use <;> decide

end CpuUse

namespace CpuMetrics

/-- The percentage of a kind of CPU time. -/
def percentOf {N : Type} (metrics : CpuMetrics N) : CpuUse → N
  | .total => metrics.cpuPercent
  | .kernel => metrics.kernelPercent
  | .user => metrics.userPercent

/-- CPU metrics in exact numbers. -/
def deriveExact (undivided : ℚ → ℚ → ℚ) (limitCores : ℚ) (current : RawCpu)
    (time : Time) (previous : StoredSample) : CpuMetrics ℚ :=
  @derive ℚ (exactNumbers undivided) limitCores current time (some previous)

/-- The CPU time that was there to be used, in nanoseconds: what the host's CPU
time rose by or, where it did not rise, the time that passed on all CPUs. -/
def available (current : RawCpu) (time : Time) (previous : StoredSample) : ℕ :=
  if 0 < current.rise previous .host then current.rise previous .host
  else max current.onlineCpus.toNat 1 * time.nanosSince previous.time

/-- The percentage of one CPU that some CPU time is, of that of a number of
CPUs. -/
def exactPercent (cpus available used : ℕ) : ℚ :=
  if available = 0 then 0
  else min (100 * cpus) (100 * cpus * used / available)

theorem exactPercent_nonneg (cpus available used : ℕ) :
    0 ≤ exactPercent cpus available used := by
  unfold exactPercent
  split
  · exact le_rfl
  · positivity

theorem exactPercent_le (cpus available used : ℕ) :
    exactPercent cpus available used ≤ 100 * cpus := by
  unfold exactPercent
  split
  · positivity
  · exact min_le_left _ _

theorem exactPercent_mono (cpus available : ℕ) {used more : ℕ}
    (less : used ≤ more) :
    exactPercent cpus available used ≤ exactPercent cpus available more := by
  unfold exactPercent
  split
  · exact le_rfl
  · gcongr

section

variable (undivided : ℚ → ℚ → ℚ) (limitCores : ℚ) (current : RawCpu)
    (time : Time) (previous : StoredSample)

/-- The window of a rate is the CPU time that was there. -/
theorem window_exact :
    @window ℚ (exactNumbers undivided) (onlineCpus current)
        (current.growthSince time previous) =
      available current time previous := by
  have grown : (current.growthSince time previous).host.toNat =
      current.rise previous .host :=
    Counter.toNat_growth ..
  have passed : (current.growthSince time previous).elapsed.nanos =
      time.nanosSince previous.time :=
    Time.nanos_getD_since? ..
  unfold window available
  by_cases still : (current.growthSince time previous).host = 0
  · have none : ¬ 0 < current.rise previous .host := by
      rw [← grown, still]
      decide
    rw [if_pos still, if_neg none, passed]
    show ((time.nanosSince previous.time : ℕ) : ℚ) *
      (onlineCpus current : ℕ) = _
    rw [onlineCpus, Nat.cast_mul, mul_comm]
  · have rose : 0 < current.rise previous .host := by
      rw [← grown]
      exact UInt64.pos_iff_ne_zero.2 still
    rw [if_neg still, if_pos rose, ← grown]
    rfl

theorem below_exact {left right : ℚ} :
    @RateNumber.below ℚ (exactNumbers undivided) left right = true ↔
      left < right :=
  decide_eq_true_iff

theorem clamp_exact (low high number : ℚ) :
    @RateNumber.clamp ℚ (exactNumbers undivided) low high number =
      min high (max low number) := by
  simp only [RateNumber.clamp, below_exact]
  rw [← max_def_lt, ← min_def_lt, max_comm]

/-- A percentage is that of the CPU time that was there. -/
theorem percent_exact (used : Counter) :
    @percent ℚ (exactNumbers undivided) (onlineCpus current)
        (current.growthSince time previous) used =
      exactPercent (onlineCpus current) (available current time previous)
        used.toNat := by
  unfold percent exactPercent
  rw [window_exact]
  generalize available current time previous = window
  by_cases none : window = 0
  · rw [if_pos none, none]
    exact if_neg (by rw [below_exact]; exact lt_irrefl _)
  · have positive : (0 : ℚ) < window := by
      exact_mod_cast Nat.pos_of_ne_zero none
    rw [if_neg none]
    refine (if_pos ((below_exact undivided).2 ?_)).trans ?_
    · exact positive
    rw [clamp_exact]
    show min ((onlineCpus current : ℚ) * ((100 : ℕ) : ℚ))
        (max ((0 : ℕ) : ℚ)
          ((if (0 : ℚ) < window then (used.toNat : ℚ) / window
            else undivided used.toNat window) *
            (onlineCpus current : ℚ) * ((100 : ℕ) : ℚ))) = _
    rw [if_pos positive, max_eq_right (by positivity)]
    push_cast
    congr 1 <;> ring

/-- The metrics of a comparison in exact numbers, in closed form. -/
theorem deriveExact_eq :
    deriveExact undivided limitCores current time previous =
      let percent := fun counter =>
        exactPercent (onlineCpus current) (available current time previous)
          (current.rise previous counter)
      let cores := percent .total / 100
      { cpuPercent := percent .total
        kernelPercent := percent .kernel
        userPercent := percent .user
        usedCores := cores
        limitCores
        usedCoresPercent :=
          if 0 < limitCores then 100 * cores / limitCores else 0
        throttledPeriods := Counter.growth previous.cpu.throttledPeriods
          current.throttledPeriods
        throttledMillis :=
          (current.rise previous .throttledNanos : ℚ) / 1000000
        shares := current.shares } := by
  have rises : ∀ counter,
      (Counter.growth (previous.cpu.count counter)
        (current.count counter)).toNat = current.rise previous counter :=
    fun counter => Counter.toNat_growth ..
  simp only [deriveExact, derive, ofGrowth, percent_exact]
  simp only [← rises]
  congr 1
  -- Only the percentage of the limit divides by a number that is not known.
  by_cases limited : 0 < limitCores
  · rw [if_pos limited]
    exact (if_pos ((below_exact undivided).2 limited)).trans (if_pos limited)
  · rw [if_neg limited]
    exact if_neg fun positive => limited ((below_exact undivided).1 positive)

/-- Each percentage is that of what its counter rose by. -/
theorem percentOf_exact (use : CpuUse) :
    (deriveExact undivided limitCores current time previous).percentOf use =
      exactPercent (onlineCpus current) (available current time previous)
        (current.rise previous use.counter) := by
  rw [deriveExact_eq]
  cases use <;> rfl

theorem usedCores_exact :
    (deriveExact undivided limitCores current time previous).usedCores =
      (deriveExact undivided limitCores current time previous).percentOf
        .total / 100 := by
  rw [deriveExact_eq]
  rfl

theorem available_setCount (use : CpuUse) (count : Counter) :
    available (current.setCount use.counter count) time previous =
      available current time previous := by
  unfold available
  rw [RawCpu.rise_setCount, if_neg use.counter_ne_host,
    RawCpu.onlineCpus_setCount]

theorem available_since_setCount (use : CpuUse) (count : Counter) :
    available current time (previous.setCount use.counter count) =
      available current time previous := by
  unfold available
  rw [RawCpu.rise_since_setCount, if_neg use.counter_ne_host]
  rfl

theorem onlineCpus_setCount (use : CpuUse) (count : Counter) :
    onlineCpus (current.setCount use.counter count) = onlineCpus current := by
  rw [onlineCpus, RawCpu.onlineCpus_setCount, onlineCpus]

theorem percentOf_exact_mono (use : CpuUse) {count : Counter}
    (grown : current.count use.counter ≤ count) :
    (deriveExact undivided limitCores current time previous).percentOf use ≤
      (deriveExact undivided limitCores (current.setCount use.counter count)
        time previous).percentOf use := by
  have more := UInt64.le_iff_toNat_le.1 grown
  rw [percentOf_exact, percentOf_exact, available_setCount,
    onlineCpus_setCount, RawCpu.rise_setCount, if_pos rfl]
  apply exactPercent_mono
  rw [RawCpu.rise]
  omega

theorem percentOf_exact_anti (use : CpuUse) {count : Counter}
    (grown : previous.cpu.count use.counter ≤ count) :
    (deriveExact undivided limitCores current time
        (previous.setCount use.counter count)).percentOf use ≤
      (deriveExact undivided limitCores current time previous).percentOf
        use := by
  have more := UInt64.le_iff_toNat_le.1 grown
  rw [percentOf_exact, percentOf_exact, available_since_setCount,
    RawCpu.rise_since_setCount, if_pos rfl]
  apply exactPercent_mono
  rw [RawCpu.rise]
  omega

/-- CPU metrics in exact numbers.  Nothing is divided by a number that is not
positive.  The percentage of some CPU time is its share of the CPU time that
was there, of all CPUs, and at most what all CPUs can do: zero where no CPU
time was there, never less for a counter that is further and never more for one
that was further before. -/
theorem exact_percentages :
    (∀ another, deriveExact another limitCores current time previous =
      deriveExact undivided limitCores current time previous) ∧
    let metrics := deriveExact undivided limitCores current time previous
    let cpus : ℕ := max current.onlineCpus.toNat 1
    let window : ℕ := available current time previous
    (∀ use : CpuUse,
      metrics.percentOf use =
        (if window = 0 then (0 : ℚ)
        else
          min (100 * (cpus : ℚ))
            (100 * cpus * current.rise previous use.counter / window)) ∧
      0 ≤ metrics.percentOf use ∧ metrics.percentOf use ≤ 100 * cpus ∧
      (∀ count, current.count use.counter ≤ count →
        metrics.percentOf use ≤
          (deriveExact undivided limitCores
            (current.setCount use.counter count) time previous).percentOf
              use) ∧
      ∀ count, previous.cpu.count use.counter ≤ count →
        (deriveExact undivided limitCores current time
            (previous.setCount use.counter count)).percentOf use ≤
          metrics.percentOf use) ∧
    0 ≤ metrics.usedCores ∧ metrics.usedCores ≤ cpus ∧
    metrics.usedCoresPercent =
      if 0 < limitCores then 100 * metrics.usedCores / limitCores else 0 := by
  constructor
  · intro another
    exact (deriveExact_eq ..).trans (deriveExact_eq ..).symm
  intro metrics cpus window
  have bounds : ∀ use, 0 ≤ metrics.percentOf use ∧
      metrics.percentOf use ≤ 100 * cpus := by
    intro use
    rw [percentOf_exact]
    exact ⟨exactPercent_nonneg _ _ _, exactPercent_le _ _ _⟩
  have cores : metrics.usedCores = metrics.percentOf .total / 100 :=
    usedCores_exact ..
  refine ⟨?_, ?_, ?_, ?_⟩
  · intro use
    refine ⟨percentOf_exact .., (bounds use).1, (bounds use).2, ?_, ?_⟩
    · intro count grown
      exact percentOf_exact_mono _ _ _ _ _ use grown
    · intro count grown
      exact percentOf_exact_anti _ _ _ _ _ use grown
  · rw [cores]
    linarith [(bounds .total).1]
  · rw [cores]
    linarith [(bounds .total).2]
  · simp only [metrics, deriveExact_eq]

end

/-- Two seconds of CPU time on four CPUs, on a host that does not tell its
own. -/
def twoSecondsOfFour : RawCpu :=
  ⟨2000000000, 0, 0, [], 0, 4, 0, 0, 0, 0, 0⟩

/-- A container that has used no CPU time yet. -/
def unusedSample : StoredSample :=
  ⟨⟨7⟩, ⟨0, 0, 0, [], 0, 4, 0, 0, 0, 0, 0⟩⟩

theorem two_seconds_in_one :
    let metrics := deriveExact (fun _ _ => -1) 0 twoSecondsOfFour ⟨1000000007⟩
      unusedSample
    metrics.cpuPercent = 200 ∧
      200 ≤ (deriveExact (fun _ _ => -1) 0
        (twoSecondsOfFour.setCount .total 9000000000) ⟨1000000007⟩
        unusedSample).cpuPercent ∧
      (deriveExact (fun _ _ => -1) 0 twoSecondsOfFour ⟨1000000007⟩
        (unusedSample.setCount .total 1000000000)).cpuPercent ≤ 200 ∧
      metrics.usedCoresPercent = 0 := by
  intro metrics
  rcases exact_percentages (fun _ _ => -1) 0 twoSecondsOfFour ⟨1000000007⟩
    unusedSample with ⟨-, uses, -, -, limited⟩
  rcases uses .total with ⟨share, -, -, mono, anti⟩
  have window : available twoSecondsOfFour ⟨1000000007⟩ unusedSample =
      4000000000 := by
    decide
  have used : twoSecondsOfFour.rise unusedSample .total = 2000000000 := by
    decide
  have cpus : max twoSecondsOfFour.onlineCpus.toNat 1 = 4 := by
    decide
  have half : metrics.cpuPercent = 200 := by
    refine share.trans ?_
    simp only [window, CpuUse.counter, used, cpus]
    norm_num
  refine ⟨half, ?_, ?_, ?_⟩
  · rw [← half]
    exact mono 9000000000 (by decide)
  · rw [← half]
    exact anti 1000000000 (by decide)
  · exact limited.trans (if_neg (lt_irrefl _))

end CpuMetrics

end CgroupMeter
