import CgroupMeter.Counter
import CgroupMeter.Stat.KeyValue

/-!
# Memory accounting files

Both layouts keep the parts of a group's memory in a `memory.stat`, under
different keys.  Only the group's own counters are read.
-/

namespace CgroupMeter

/-- Parts of the memory of a group in the unified hierarchy, in bytes. -/
structure UnifiedMemoryStat where
  anonymous : Counter
  file : Counter
  kernelStack : Counter
  slab : Counter
  deriving DecidableEq, Inhabited

namespace UnifiedMemoryStat

/-- The `memory.stat` of the unified hierarchy. -/
def format : KeyValueFormat UnifiedMemoryStat where
  initial := ⟨0, 0, 0, 0⟩
  handlers := [
    ("anon", fun stat value => { stat with anonymous := value }),
    ("file", fun stat value => { stat with file := value }),
    ("kernel_stack", fun stat value => { stat with kernelStack := value }),
    ("slab", fun stat value => { stat with slab := value })]
  distinct := by decide
  allowsRepeats := false

/-- Memory that the kernel uses for the group. -/
def kernelUsage (stat : UnifiedMemoryStat) : Counter :=
  Counter.add stat.kernelStack stat.slab

end UnifiedMemoryStat

/-- Parts of the memory of a group in the hierarchy of the `memory`
controller, in bytes. -/
structure ControllerMemoryStat where
  anonymous : Counter
  cache : Counter
  deriving DecidableEq, Inhabited

/-- The `memory.stat` of the `memory` controller. -/
def ControllerMemoryStat.format : KeyValueFormat ControllerMemoryStat where
  initial := ⟨0, 0⟩
  handlers := [
    ("rss", fun stat value => { stat with anonymous := value }),
    ("cache", fun stat value => { stat with cache := value })]
  distinct := by decide
  allowsRepeats := false

end CgroupMeter
