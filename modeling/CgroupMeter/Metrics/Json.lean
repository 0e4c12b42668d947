import CgroupMeter.Json.Real
import CgroupMeter.Json.Time
import CgroupMeter.Metrics.Sample

/-!
# Derived samples in JSON

A derived sample is written as one object.  Each of the metrics of swap is left
out where it is not known.
-/

namespace CgroupMeter

/-- Write CPU metrics. -/
def CpuMetrics.toJson (cpu : CpuMetrics Float) : WrittenJson :=
  .object [
    ("cpu_percent", Json.ofFloat cpu.cpuPercent),
    ("kernel_percent", Json.ofFloat cpu.kernelPercent),
    ("user_percent", Json.ofFloat cpu.userPercent),
    ("used_cores", Json.ofFloat cpu.usedCores),
    ("limit_cores", Json.ofFloat cpu.limitCores),
    ("used_cores_percent", Json.ofFloat cpu.usedCoresPercent),
    ("throttled_periods", Json.ofUInt64 cpu.throttledPeriods),
    ("throttled_time_ms", Json.ofFloat cpu.throttledMillis),
    ("shares", Json.ofUInt64 cpu.shares)]

/-- A member of an object, which is left out where there is no value. -/
def Json.optionalMember {α : Type} (name : String) (write : α → WrittenJson)
    (value : Option α) : List (String × WrittenJson) :=
  (value.map fun value => (name, write value)).toList

/-- Write memory metrics. -/
def MemoryMetrics.toJson (memory : MemoryMetrics) : WrittenJson :=
  .object (
    [("usage_bytes", Json.ofUInt64 memory.usage),
      ("cache_bytes", Json.ofUInt64 memory.cache),
      ("kernel_usage_bytes", Json.ofUInt64 memory.kernelUsage),
      ("limit_bytes", Json.ofUInt64 memory.limit),
      ("usage_percent", Json.ofFloat memory.usagePercent)] ++
    Json.optionalMember "swap_usage_bytes" Json.ofUInt64 memory.swapUsage ++
    Json.optionalMember "swap_only_usage_bytes" Json.ofUInt64
      memory.swappedOut ++
    Json.optionalMember "swap_limit_usage_percent" Json.ofFloat
      memory.swapLimitPercent ++
    [("swap_limit_bytes", Json.ofUInt64 memory.swapLimit),
      ("soft_limit_bytes", Json.ofUInt64 memory.softLimit)])

/-- Write block I/O metrics. -/
def BlkioMetrics.toJson (blkio : BlkioMetrics) : WrittenJson :=
  .object [
    ("read_bytes", Json.ofUInt64 blkio.readBytes),
    ("write_bytes", Json.ofUInt64 blkio.writeBytes),
    ("read_ops", Json.ofUInt64 blkio.readOps),
    ("write_ops", Json.ofUInt64 blkio.writeOps)]

/-- Write the counts of tasks. -/
def PidsStat.toJson (pids : PidsStat) : WrittenJson :=
  .object [
    ("current", Json.ofUInt64 pids.current), ("limit", Json.ofUInt64 pids.limit)]

/-- Write network counters. -/
def NetworkStat.toJson (network : NetworkStat) : WrittenJson :=
  .object [
    ("rx_bytes", Json.ofUInt64 network.receivedBytes),
    ("rx_packets", Json.ofUInt64 network.receivedPackets),
    ("rx_errors", Json.ofUInt64 network.receiveErrors),
    ("rx_dropped", Json.ofUInt64 network.receiveDropped),
    ("tx_bytes", Json.ofUInt64 network.sentBytes),
    ("tx_packets", Json.ofUInt64 network.sentPackets),
    ("tx_errors", Json.ofUInt64 network.sendErrors),
    ("tx_dropped", Json.ofUInt64 network.sendDropped)]

namespace MetricsSample

/-- Write a derived sample. -/
def toJson (sample : MetricsSample) : Except Json.Cut WrittenJson :=
  Json.objectOf [
    ("container_id", .ok (.string sample.containerId.text)),
    ("timestamp", sample.time.toJson),
    ("cpu", .ok sample.cpu.toJson),
    ("memory", .ok sample.memory.toJson),
    ("blkio", .ok sample.blkio.toJson),
    ("pids", .ok sample.pids.toJson),
    ("network", .ok sample.network.toJson),
    ("restart_count", .ok (Json.ofNat sample.restartCount.toNat))]

/-- A derived sample as bytes, up to a time that has no JSON form, and whether
it has such a time. -/
def print (sample : MetricsSample) : List UInt8 × Bool :=
  let written := sample.toJson
  (Json.printUpTo written, written matches .ok _)

end MetricsSample

end CgroupMeter
