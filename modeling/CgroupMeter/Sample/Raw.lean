import CgroupMeter.Container.Id
import CgroupMeter.Group.StatFile
import CgroupMeter.Stat.Blkio
import CgroupMeter.Stat.Network
import CgroupMeter.Time

/-!
# Raw samples

A raw sample holds what the accounting files of one container said at one
moment, in one form for both layouts of control groups: times in nanoseconds,
sizes in bytes, and swap counted together with memory.
-/

namespace CgroupMeter

/-- The CPU counters of a sample. -/
structure RawCpu where
  /-- CPU time of the group, in nanoseconds. -/
  totalUsage : Counter
  /-- CPU time in user mode, in nanoseconds. -/
  userUsage : Counter
  /-- CPU time in kernel mode, in nanoseconds. -/
  kernelUsage : Counter
  /-- CPU time on each CPU in nanoseconds, where that is kept. -/
  perCpuUsage : List Counter
  /-- CPU time of the whole host, in nanoseconds. -/
  systemUsage : Counter
  /-- CPUs of the host. -/
  onlineCpus : UInt32
  /-- Enforcement periods that have passed. -/
  throttlingPeriods : Counter
  /-- Periods in which the group was throttled. -/
  throttledPeriods : Counter
  /-- Time the group was throttled, in nanoseconds. -/
  throttledNanos : Counter
  /-- The weight of the group when CPU time is scarce. -/
  shares : Counter
  /-- The CPUs that the group may use. -/
  limitCores : Float

/-- The memory counters of a sample, in bytes.  A limit that is not set is the
largest counter, or one that is nearly as large. -/
structure RawMemory where
  /-- The limit of usage. -/
  usageLimit : Counter
  /-- The page cache. -/
  cache : Counter
  /-- Anonymous memory. -/
  rss : Counter
  /-- Memory and swap in use, together. -/
  swapUsage : Counter
  /-- The kernel's own approximate count of memory in use. -/
  fuzzUsage : Counter
  /-- Memory that the kernel uses for the group. -/
  kernelUsage : Counter
  /-- The limit of memory and swap together. -/
  swapLimit : Counter
  /-- Memory that the group is to keep. -/
  softLimit : Counter
  deriving DecidableEq, Inhabited

/-- What the accounting files of a container said at one moment. -/
structure RawSample where
  containerId : ContainerId
  time : Time
  cpu : RawCpu
  memory : RawMemory
  pids : PidsStat
  blkio : BlkioStat
  network : NetworkStat

end CgroupMeter
