import CgroupMeter.Container.Inspection
import CgroupMeter.Metrics.Blkio
import CgroupMeter.Metrics.Cpu
import CgroupMeter.Metrics.Memory

/-!
# Derived samples

A derived sample holds the metrics of one container.  CPU figures are rates
since the stored sample of the container; all other figures are those of the
raw sample.
-/

namespace CgroupMeter

/-- The metrics of a container at one moment. -/
structure MetricsSample where
  containerId : ContainerId
  time : Time
  cpu : CpuMetrics Float
  memory : MemoryMetrics
  blkio : BlkioMetrics
  pids : PidsStat
  network : NetworkStat
  restartCount : UInt32

/-- Derive the metrics of a raw sample, compared with the stored one. -/
def MetricsSample.derive (inspection : Inspection) (raw : RawSample)
    (previous : Option StoredSample) : MetricsSample :=
  { containerId := raw.containerId
    time := raw.time
    cpu := CpuMetrics.derive raw.cpu.limitCores raw.cpu raw.time previous
    memory := MemoryMetrics.ofRaw raw.memory
    blkio := BlkioMetrics.ofStat raw.blkio
    pids := raw.pids
    network := raw.network
    restartCount := inspection.restartCount }

end CgroupMeter
