import CgroupMeter.Metrics.Cpu
import CgroupMeter.Proofs.Counter

/-!
# What CPU metrics see of a stored sample

CPU metrics see a stored sample only through what has grown since: of six
counters how much each of them rose, and of its time how much has passed, the
latter only where the host's CPU time has not risen.  That a counter fell, that
a clock was set, and all other fields of the stored sample leave no trace.
-/

namespace CgroupMeter

/-- The counters of a sample that are compared with the stored ones. -/
inductive ComparedCounter where
  /-- CPU time of the group. -/
  | total
  | user
  | kernel
  /-- CPU time of the whole host. -/
  | host
  | throttledPeriods
  | throttledNanos
  deriving DecidableEq

namespace RawCpu

/-- The count of a counter. -/
def count (cpu : RawCpu) : ComparedCounter → Counter
  | .total => cpu.totalUsage
  | .user => cpu.userUsage
  | .kernel => cpu.kernelUsage
  | .host => cpu.systemUsage
  | .throttledPeriods => cpu.throttledPeriods
  | .throttledNanos => cpu.throttledNanos

/-- The same sample with another count of one counter. -/
def setCount (cpu : RawCpu) (counter : ComparedCounter) (count : Counter) :
    RawCpu :=
  match counter with
  | .total => { cpu with totalUsage := count }
  | .user => { cpu with userUsage := count }
  | .kernel => { cpu with kernelUsage := count }
  | .host => { cpu with systemUsage := count }
  | .throttledPeriods => { cpu with throttledPeriods := count }
  | .throttledNanos => { cpu with throttledNanos := count }

theorem count_setCount (cpu : RawCpu) (counter other : ComparedCounter)
    (count : Counter) :
    (cpu.setCount counter count).count other =
      if counter = other then count else cpu.count other := by
  cases counter <;> cases other <;> rfl

@[simp]
theorem shares_setCount (cpu : RawCpu) (counter : ComparedCounter)
    (count : Counter) : (cpu.setCount counter count).shares = cpu.shares := by
  cases counter <;> rfl

@[simp]
theorem onlineCpus_setCount (cpu : RawCpu) (counter : ComparedCounter)
    (count : Counter) :
    (cpu.setCount counter count).onlineCpus = cpu.onlineCpus := by
  cases counter <;> rfl

end RawCpu

/-- The same stored sample with another count of one counter. -/
def StoredSample.setCount (sample : StoredSample) (counter : ComparedCounter)
    (count : Counter) : StoredSample :=
  { sample with cpu := sample.cpu.setCount counter count }

namespace RawCpu

/-- How much a counter rose since a stored sample, nothing if it fell. -/
def rise (current : RawCpu) (previous : StoredSample)
    (counter : ComparedCounter) : Nat :=
  (current.count counter).toNat - (previous.cpu.count counter).toNat

theorem rise_setCount (current : RawCpu) (previous : StoredSample)
    (counter other : ComparedCounter) (count : Counter) :
    (current.setCount counter count).rise previous other =
      if counter = other then
        count.toNat - (previous.cpu.count counter).toNat
      else current.rise previous other := by
  unfold rise
  rw [count_setCount]
  split
  · next same => rw [same]
  · rfl

theorem rise_since_setCount (current : RawCpu) (previous : StoredSample)
    (counter other : ComparedCounter) (count : Counter) :
    current.rise (previous.setCount counter count) other =
      if counter = other then
        (current.count counter).toNat - count.toNat
      else current.rise previous other := by
  unfold rise StoredSample.setCount
  rw [count_setCount]
  split
  · next same => rw [same]
  · rfl

/-- A counter that fell has risen as little as one that stood still. -/
theorem rise_of_fall (current : RawCpu) (previous : StoredSample)
    {counter : ComparedCounter}
    (fell : current.count counter ≤ previous.cpu.count counter)
    (other : ComparedCounter) :
    current.rise (previous.setCount counter (current.count counter)) other =
      current.rise previous other := by
  rw [rise_since_setCount]
  split
  · next same =>
      have less := UInt64.le_iff_toNat_le.1 fell
      rw [← same, rise]
      omega
  · rfl

/-- A counter that both samples have counted higher by as much has risen the
same. -/
theorem rise_shifted (current : RawCpu) (previous : StoredSample)
    (counter : ComparedCounter) {offset : Counter}
    (before : (previous.cpu.count counter).toNat + offset.toNat < UInt64.size)
    (now : (current.count counter).toNat + offset.toNat < UInt64.size)
    (other : ComparedCounter) :
    (current.setCount counter (current.count counter + offset)).rise
        (previous.setCount counter (previous.cpu.count counter + offset))
        other =
      current.rise previous other := by
  rw [rise_since_setCount, rise_setCount, count_setCount, if_pos rfl]
  split
  · next same =>
      rw [← same, rise, UInt64.toNat_add, UInt64.toNat_add,
        Nat.mod_eq_of_lt now, Nat.mod_eq_of_lt before]
      omega
  · rfl

end RawCpu

/-- The nanoseconds from one time to another, none if the clock went back. -/
def Time.nanosSince (later earlier : Time) : Nat :=
  (later.nanos - earlier.nanos).toNat

theorem Time.nanos_getD_since? (later earlier : Time) :
    ((later.since? earlier).getD ⟨0⟩).nanos = later.nanosSince earlier := by
  unfold since? nanosSince
  split
  · rfl
  · simp only [Option.getD_none]
    omega

namespace CpuMetrics

section

variable {N : Type} [RateNumber N] {current other : RawCpu}
    {time later : Time} {first second : StoredSample}

/-- A counter whose rise is the same has grown the same. -/
theorem growth_eq {counter : ComparedCounter}
    (same : current.rise first counter = other.rise second counter) :
    Counter.growth (first.cpu.count counter) (current.count counter) =
      Counter.growth (second.cpu.count counter) (other.count counter) := by
  apply Counter.eq_of_toNat
  rw [Counter.toNat_growth, Counter.toNat_growth]
  exact same

/-- The window of a rate takes the time only where the host has not grown. -/
theorem window_congr (online : Nat)
    (host : current.rise first .host = other.rise second .host)
    (passed : current.rise first .host = 0 →
      time.nanosSince first.time = later.nanosSince second.time) :
    (window online (current.growthSince time first) : N) =
      window online (other.growthSince later second) := by
  have grown := growth_eq host
  simp only [RawCpu.count] at grown
  unfold window
  simp only [RawCpu.growthSince, Time.nanos_getD_since?, grown]
  split
  · next idle =>
      have still : current.rise first .host = 0 := by
        have none := congrArg UInt64.toNat (grown.trans idle)
        rw [Counter.toNat_growth] at none
        exact none
      rw [passed still]
  · rfl

/-- Metrics take nothing from a growth but the growth of the counters and the
window. -/
theorem ofGrowth_congr (limitCores : N) (shares : Counter) (online : Nat)
    {before after : CpuGrowth}
    (windows : (window online before : N) = window online after)
    (total : before.total = after.total) (user : before.user = after.user)
    (kernel : before.kernel = after.kernel)
    (periods : before.throttledPeriods = after.throttledPeriods)
    (nanos : before.throttledNanos = after.throttledNanos) :
    ofGrowth limitCores shares online before =
      ofGrowth limitCores shares online after := by
  simp only [ofGrowth, percent, windows, total, user, kernel, periods, nanos]

/-- Two comparisons in which every counter rose the same, and as much time has
passed where that is looked at, give the same metrics. -/
theorem derive_congr (limitCores : N) (shares : current.shares = other.shares)
    (online : current.onlineCpus = other.onlineCpus)
    (same : ∀ counter, current.rise first counter = other.rise second counter)
    (passed : current.rise first .host = 0 →
      time.nanosSince first.time = later.nanosSince second.time) :
    derive limitCores current time (some first) =
      derive limitCores other later (some second) := by
  have cpus : onlineCpus current = onlineCpus other := by
    rw [onlineCpus, onlineCpus, online]
  simp only [derive, shares, cpus]
  exact ofGrowth_congr _ _ _ (window_congr _ (same .host) passed)
    (growth_eq (same .total)) (growth_eq (same .user))
    (growth_eq (same .kernel)) (growth_eq (same .throttledPeriods))
    (growth_eq (same .throttledNanos))

/-- The metrics of a sample depend on the stored one through the rises of six
counters and, where the host's CPU time did not rise, the time that passed.  So
a counter that fell is as one that stood still, the clock has no say where the
host's CPU time rose, no other field of the stored sample matters, nor do the
sample's own counters without a rate, and neither does where a counter started
to count. -/
theorem derive_sees_rises_only (limitCores : N) (current : RawCpu) (time : Time)
    (previous : StoredSample) :
    (∀ another : StoredSample,
      (∀ counter, current.rise previous counter =
        current.rise another counter) →
      (current.rise previous .host = 0 →
        time.nanosSince previous.time = time.nanosSince another.time) →
      derive limitCores current time (some previous) =
        derive limitCores current time (some another)) ∧
    (∀ counter, current.count counter ≤ previous.cpu.count counter →
      derive limitCores current time
          (some (previous.setCount counter (current.count counter))) =
        derive limitCores current time (some previous)) ∧
    (previous.cpu.systemUsage < current.systemUsage → ∀ now earlier,
      derive limitCores current now (some { previous with time := earlier }) =
        derive limitCores current time (some previous)) ∧
    (∀ perCpuNow periodsNow perCpuUsage onlineCpus throttlingPeriods shares
        cores,
      derive limitCores
          { current with
            perCpuUsage := perCpuNow, throttlingPeriods := periodsNow } time
          (some { previous with
            cpu := { previous.cpu with
              perCpuUsage, onlineCpus, throttlingPeriods, shares
              limitCores := cores } }) =
        derive limitCores current time (some previous)) ∧
    ∀ counter offset,
      (previous.cpu.count counter).toNat + offset.toNat < UInt64.size →
      (current.count counter).toNat + offset.toNat < UInt64.size →
      derive limitCores
          (current.setCount counter (current.count counter + offset)) time
          (some (previous.setCount counter
            (previous.cpu.count counter + offset))) =
        derive limitCores current time (some previous) := by
  refine ⟨?_, ?_, ?_, ?_, ?_⟩
  · intro another same passed
    exact derive_congr limitCores rfl rfl same passed
  · intro counter fell
    exact derive_congr limitCores rfl rfl
      (RawCpu.rise_of_fall current previous fell) fun _ => rfl
  · intro advanced now earlier
    have rose : current.rise previous .host ≠ 0 := by
      have less := UInt64.lt_iff_toNat_lt.1 advanced
      simp only [RawCpu.rise, RawCpu.count]
      omega
    exact derive_congr limitCores rfl rfl (fun _ => rfl)
      fun still => absurd still rose
  · intro _ _ _ _ _ _ _
    refine derive_congr limitCores rfl rfl ?_ fun _ => rfl
    intro counter
    cases counter <;> rfl
  · intro counter offset before now
    exact derive_congr limitCores (RawCpu.shares_setCount ..)
      (RawCpu.onlineCpus_setCount ..)
      (RawCpu.rise_shifted current previous counter before now) fun _ => rfl

end

/-- CPU counters of a container, some time after its group was made anew. -/
def renewedCpu : RawCpu :=
  ⟨10, 4, 3, [6, 4], 100, 2, 9, 5, 6, 1024, 2⟩

/-- A sample that was stored before, by a clock that was ahead. -/
def beforeRenewal : StoredSample :=
  ⟨⟨40⟩, ⟨20, 1, 1, [20], 50, 4, 8, 2, 3, 512, 1⟩⟩

/-- A sample since which the counters have risen as much. -/
def sameRises : StoredSample :=
  ⟨⟨0⟩, ⟨15, 1, 1, [], 50, 1, 0, 2, 3, 0, 7⟩⟩

theorem renewal_looks_like_rest :
    let metrics : CpuMetrics Float :=
      derive 2 renewedCpu ⟨30⟩ (some beforeRenewal)
    derive 2 renewedCpu ⟨30⟩ (some sameRises) = metrics ∧
      derive 2 renewedCpu ⟨30⟩ (some (beforeRenewal.setCount .total 10)) =
        metrics ∧
      derive 2 renewedCpu ⟨95⟩ (some { beforeRenewal with time := ⟨90⟩ }) =
        metrics ∧
      derive 2 (renewedCpu.setCount .user 104) ⟨30⟩
          (some (beforeRenewal.setCount .user 101)) = metrics := by
  intro metrics
  rcases derive_sees_rises_only (2 : Float) renewedCpu ⟨30⟩ beforeRenewal with
    ⟨rises, fell, clock, -, shifted⟩
  refine ⟨(rises sameRises ?_ ?_).symm, fell .total (by decide),
    clock (by decide) ⟨95⟩ ⟨90⟩, shifted .user 100 (by decide) (by decide)⟩
  · intro counter
    cases counter <;> decide
  · intro still
    exact absurd still (by decide)

end CpuMetrics

end CgroupMeter
