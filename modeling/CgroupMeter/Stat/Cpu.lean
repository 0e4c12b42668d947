import CgroupMeter.Counter
import CgroupMeter.Stat.KeyValue

/-!
# CPU accounting files

The unified hierarchy keeps usage and throttling of a group in one `cpu.stat`,
in microseconds.  The hierarchies per controller keep throttling in `cpu.stat`
and usage in `cpuacct.stat`, the latter in clock ticks, and a counter of
nanoseconds per CPU in `cpuacct.usage_percpu`.
-/

namespace CgroupMeter

/-- Nanoseconds in a clock tick: there are a hundred ticks in a second. -/
def nanosPerTick : Nat := 10000000

/-- Nanoseconds in a microsecond. -/
def nanosPerMicro : Nat := 1000

/-- Clock ticks as nanoseconds. -/
def ticksToNanos (ticks : Counter) : Counter :=
  Counter.scale nanosPerTick ticks

/-- Microseconds as nanoseconds. -/
def microsToNanos (micros : Counter) : Counter :=
  Counter.scale nanosPerMicro micros

/-- Usage and throttling of a group in the unified hierarchy. -/
structure UnifiedCpuStat where
  /-- CPU time in microseconds. -/
  usageMicros : Counter
  /-- CPU time in user mode, in microseconds. -/
  userMicros : Counter
  /-- CPU time in kernel mode, in microseconds. -/
  systemMicros : Counter
  /-- Enforcement periods that have passed. -/
  periods : Counter
  /-- Periods in which the group was throttled. -/
  throttledPeriods : Counter
  /-- Time the group was throttled, in microseconds. -/
  throttledMicros : Counter
  deriving DecidableEq, Inhabited

/-- The `cpu.stat` of the unified hierarchy. -/
def UnifiedCpuStat.format : KeyValueFormat UnifiedCpuStat where
  initial := ⟨0, 0, 0, 0, 0, 0⟩
  handlers := [
    ("usage_usec", fun stat value => { stat with usageMicros := value }),
    ("user_usec", fun stat value => { stat with userMicros := value }),
    ("system_usec", fun stat value => { stat with systemMicros := value }),
    ("nr_periods", fun stat value => { stat with periods := value }),
    ("nr_throttled", fun stat value => { stat with throttledPeriods := value }),
    ("throttled_usec", fun stat value => { stat with throttledMicros := value })]
  distinct := by decide
  allowsRepeats := false

/-- Throttling of a group in the hierarchy of the `cpu` controller. -/
structure ThrottlingStat where
  /-- Enforcement periods that have passed. -/
  periods : Counter
  /-- Periods in which the group was throttled. -/
  throttledPeriods : Counter
  /-- Time the group was throttled, in nanoseconds. -/
  throttledNanos : Counter
  deriving DecidableEq, Inhabited

/-- The `cpu.stat` of the `cpu` controller. -/
def ThrottlingStat.format : KeyValueFormat ThrottlingStat where
  initial := ⟨0, 0, 0⟩
  handlers := [
    ("nr_periods", fun stat value => { stat with periods := value }),
    ("nr_throttled", fun stat value => { stat with throttledPeriods := value }),
    ("throttled_time", fun stat value => { stat with throttledNanos := value })]
  distinct := by decide
  allowsRepeats := false

/-- CPU time of a group by mode, in clock ticks. -/
structure CpuTicksStat where
  user : Counter
  system : Counter
  deriving DecidableEq, Inhabited

/-- The `cpuacct.stat` of the `cpuacct` controller. -/
def CpuTicksStat.format : KeyValueFormat CpuTicksStat where
  initial := ⟨0, 0⟩
  handlers := [
    ("user", fun stat value => { stat with user := value }),
    ("system", fun stat value => { stat with system := value })]
  distinct := by decide
  allowsRepeats := false

namespace PerCpuUsage

/-- The counters of a line, one per CPU. -/
def ofLine (text : String) : Except StatError (List Counter) :=
  (Text.words text).mapM fun value =>
    (Numeral.readUInt64 value).mapError (StatError.invalidValue value 1)

/-- Read a file of one counter per CPU.  Only its first line counts, and an
empty file has no CPUs. -/
def read (lines : Lines) : Except ContentError (List Counter) := do
  let line ← lines.first.mapError ContentError.read
  (ofLine line).mapError .parse

end PerCpuUsage

end CgroupMeter
