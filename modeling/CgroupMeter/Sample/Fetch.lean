import CgroupMeter.Sample.Error
import CgroupMeter.Sample.Part
import CgroupMeter.Sample.Raw
import CgroupMeter.Stat.Memory

/-!
# Taking a sample

A sample of a container is taken from the network counters of its first
process and the accounting files of its groups.  The parts are read in a fixed
order.  Both layouts of control groups give samples of one form: in the
unified hierarchy, microseconds become nanoseconds, and swap and memory, which
it counts apart, are added.
-/

namespace CgroupMeter.RawSample

/-- CPUs of the host: as listed with its CPU time, or as many as have counters
of their own, or as many as this program can see. -/
def hostCpus (visible : UInt32) (host : HostCpuUsage) (perCpu : List Counter) :
    UInt32 :=
  if 0 < host.onlineCpus then host.onlineCpus
  else if 0 < perCpu.length ∧ perCpu.length < UInt32.size then
    UInt32.ofNat perCpu.length
  else visible

/-- A whole number as a floating-point number. -/
def toFloat (number : Nat) : Float := Float.ofNat number

/-- Billionths of a CPU in a CPU. -/
def nanosPerCpu : Float := 1000000000.0

/-- The CPUs that a container may use: its quota if it has one, else a list of
CPUs that counts some, else all CPUs of the host. -/
def limitCores (settings : ResourceSettings) (cpuset : Option Counter)
    (hostCpus : UInt32) : Float :=
  if 0 < settings.nanoCpus then toFloat settings.nanoCpus.toNat / nanosPerCpu
  else
    match cpuset with
    | some count =>
        if 0 < count then toFloat count.toNat else toFloat hostCpus.toNat
    | none => toFloat hostCpus.toNat

/-! ## Hierarchies of single controllers -/

/-- Read the CPU counters from the hierarchies of single controllers. -/
def readControllerCpu (reader : PartReader) (root : Path)
    (settings : ResourceSettings) : Inquiry RawCpu := do
  let ticks ← reader.part "cpuacct" "cpuacct.stat" CpuTicksStat.format.read ⟨0, 0⟩
  let throttling ←
    reader.part "cpu" "cpu.stat" ThrottlingStat.format.read ⟨0, 0, 0⟩
  let perCpu ← reader.part "cpuacct" "cpuacct.usage_percpu" PerCpuUsage.read []
  let host ← reader.hostCpu root
  let online := hostCpus (← Inquiry.visibleCpus) host perCpu
  let cpuset ← reader.cpuset "cpuset.cpus"
  let total ← reader.value "cpuacct" "cpuacct.usage"
  let shares ← reader.value "cpu" "cpu.shares"
  return {
    totalUsage := total
    userUsage := ticksToNanos ticks.user
    kernelUsage := ticksToNanos ticks.system
    perCpuUsage := perCpu
    systemUsage := host.usage
    onlineCpus := online
    throttlingPeriods := throttling.periods
    throttledPeriods := throttling.throttledPeriods
    throttledNanos := throttling.throttledNanos
    shares
    limitCores := limitCores settings cpuset online }

/-- Read the memory counters from the hierarchy of the `memory` controller. -/
def readControllerMemory (reader : PartReader) : Inquiry RawMemory := do
  let stat ←
    reader.part "memory" "memory.stat" ControllerMemoryStat.format.read ⟨0, 0⟩
  let usageLimit ← reader.value "memory" "memory.limit_in_bytes"
  let swapUsage ← reader.optionalValue "memory" "memory.memsw.usage_in_bytes"
  let fuzzUsage ← reader.value "memory" "memory.usage_in_bytes"
  let kernelUsage ← reader.value "memory" "memory.kmem.usage_in_bytes"
  let swapLimit ← reader.optionalValue "memory" "memory.memsw.limit_in_bytes"
  let softLimit ← reader.value "memory" "memory.soft_limit_in_bytes"
  return {
    usageLimit, cache := stat.cache, rss := stat.anonymous, swapUsage, fuzzUsage,
    kernelUsage, swapLimit, softLimit }

/-- Read the block I/O counts from the hierarchy of the `blkio` controller. -/
def readControllerBlkio (reader : PartReader) : Inquiry BlkioStat := do
  let serviceBytes ← reader.part "blkio" "blkio.throttle.io_service_bytes"
    BlkioStat.readController []
  let serviced ← reader.part "blkio" "blkio.throttle.io_serviced"
    BlkioStat.readController []
  return ⟨serviceBytes, serviced⟩

/-! ## The unified hierarchy -/

/-- Read the CPU counters from the unified hierarchy. -/
def readUnifiedCpu (reader : PartReader) (root : Path)
    (settings : ResourceSettings) : Inquiry RawCpu := do
  let stat ←
    reader.part "cpu" "cpu.stat" UnifiedCpuStat.format.read ⟨0, 0, 0, 0, 0, 0⟩
  let host ← reader.hostCpu root
  let online := hostCpus (← Inquiry.visibleCpus) host []
  let cpuset ← reader.cpuset "cpuset.cpus.effective"
  return {
    totalUsage := microsToNanos stat.usageMicros
    userUsage := microsToNanos stat.userMicros
    kernelUsage := microsToNanos stat.systemMicros
    perCpuUsage := []
    systemUsage := host.usage
    onlineCpus := online
    throttlingPeriods := stat.periods
    throttledPeriods := stat.throttledPeriods
    throttledNanos := microsToNanos stat.throttledMicros
    shares := settings.cpuShares
    limitCores := limitCores settings cpuset online }

/-- Read the memory counters from the unified hierarchy.  A soft limit that is
not set there is taken from the settings. -/
def readUnifiedMemory (reader : PartReader) (settings : ResourceSettings) :
    Inquiry RawMemory := do
  let stat ← reader.part "memory" "memory.stat" UnifiedMemoryStat.format.read
    ⟨0, 0, 0, 0⟩
  let current ← reader.value "memory" "memory.current"
  let max ← reader.value "memory" "memory.max"
  let swapCurrent ← reader.optionalValue "memory" "memory.swap.current"
  let swapMax ← reader.optionalValue "memory" "memory.swap.max"
  let low ← reader.optionalValue "memory" "memory.low"
  return {
    usageLimit := max
    cache := stat.file
    rss := stat.anonymous
    swapUsage := Counter.add swapCurrent current
    fuzzUsage := current
    kernelUsage := stat.kernelUsage
    swapLimit := Counter.add swapMax max
    softLimit := if low = 0 then settings.memoryReservation else low }

/-- Read the block I/O counts from the unified hierarchy. -/
def readUnifiedBlkio (reader : PartReader) : Inquiry BlkioStat :=
  reader.part "io" "io.stat" BlkioStat.readUnified ⟨[], []⟩

/-! ## Whole samples -/

/-- The file with the network counters of a process. -/
def networkPath (root : Path) (pid : UInt32) : Path :=
  Path.below ⟨s!"/proc/{pid.toNat}/net/dev"⟩ root

/-- Read the network counters of a process. -/
def readNetwork (root : Path) (pid : UInt32) :
    Inquiry (Except NetworkError NetworkStat) := do
  match ← Inquiry.readLines (networkPath root pid) with
  | .error error => return .error (.openFile error)
  | .ok lines => return (← NetworkStat.read lines).mapError .read

/-- Read the parts of a sample that may fail without failing the sample. -/
def readParts (layout : GroupLayout) (root : Path) (inspection : Inspection)
    (time : Time) (network : NetworkStat) (reader : PartReader) :
    Inquiry RawSample :=
  match layout with
  | .perController => do
      let cpu ← readControllerCpu reader root inspection.settings
      let memory ← readControllerMemory reader
      let pids ← reader.pids
      let blkio ← readControllerBlkio reader
      return ⟨inspection.id, time, cpu, memory, pids, blkio, network⟩
  | .unified => do
      let cpu ← readUnifiedCpu reader root inspection.settings
      let memory ← readUnifiedMemory reader inspection.settings
      let pids ← reader.pids
      let blkio ← readUnifiedBlkio reader
      return ⟨inspection.id, time, cpu, memory, pids, blkio, network⟩

/-- Take a sample of an inspected container at a moment. -/
def fetch (layout : GroupLayout) (root : Path) (time : Time)
    (inspection : Inspection) : Inquiry (Except FetchError RawSample) := do
  let id := inspection.id
  let pid := inspection.pid
  if pid = 0 then return .error (.noProcess id)
  else
    match ← GroupLocations.resolve layout root pid with
    | .error error => return .error (.locations id error)
    | .ok locations =>
        match ← readNetwork root pid with
        | .error error => return .error (.network id (networkPath root pid) error)
        | .ok network =>
            return .ok (← readParts layout root inspection time network
              ⟨id, locations⟩)

/-- Report which layout samples are taken from. -/
def reportLayout (layout : GroupLayout) (root : Path) : Inquiry Unit :=
  Inquiry.report .debug
    s!"Using cgroup {layout.versionName} fetcher below `{root.text}`"

end CgroupMeter.RawSample
