import CgroupMeter.Metrics.Rate
import CgroupMeter.Store.Sample

/-!
# CPU rates

CPU rates compare a sample with the stored one of the same container.  They
depend on the stored sample only through what has grown since: the counters,
none of which counts as growth when it fell, and the time that has passed.

The host's CPU time covers all its CPUs.  When it has not grown, the time that
has passed on all CPUs stands in for it, and when none has passed, no CPU time
was used.
-/

namespace CgroupMeter

/-- What has grown from one sample of a container to a later one. -/
structure CpuGrowth where
  /-- CPU time of the group, in nanoseconds. -/
  total : Counter
  /-- CPU time in user mode, in nanoseconds. -/
  user : Counter
  /-- CPU time in kernel mode, in nanoseconds. -/
  kernel : Counter
  /-- CPU time of the whole host, in nanoseconds. -/
  host : Counter
  /-- Periods in which the group was throttled. -/
  throttledPeriods : Counter
  /-- Time the group was throttled, in nanoseconds. -/
  throttledNanos : Counter
  /-- The time that has passed, none if the clock went back. -/
  elapsed : Duration
  deriving DecidableEq

/-- What has grown since a stored sample, at the time of a newer one. -/
def RawCpu.growthSince (current : RawCpu) (time : Time)
    (previous : StoredSample) : CpuGrowth :=
  let before := previous.cpu
  { total := Counter.growth before.totalUsage current.totalUsage
    user := Counter.growth before.userUsage current.userUsage
    kernel := Counter.growth before.kernelUsage current.kernelUsage
    host := Counter.growth before.systemUsage current.systemUsage
    throttledPeriods :=
      Counter.growth before.throttledPeriods current.throttledPeriods
    throttledNanos := Counter.growth before.throttledNanos current.throttledNanos
    elapsed := (time.since? previous.time).getD ⟨0⟩ }

/-- CPU metrics of a container. -/
structure CpuMetrics (N : Type) where
  /-- CPU time used, in percent of one CPU. -/
  cpuPercent : N
  /-- CPU time in kernel mode, in percent of one CPU. -/
  kernelPercent : N
  /-- CPU time in user mode, in percent of one CPU. -/
  userPercent : N
  /-- CPUs used. -/
  usedCores : N
  /-- CPUs that the container may use. -/
  limitCores : N
  /-- CPUs used, in percent of those it may use. -/
  usedCoresPercent : N
  /-- Periods in which the container was throttled. -/
  throttledPeriods : Counter
  /-- Time the container was throttled, in milliseconds. -/
  throttledMillis : N
  /-- The weight of the container when CPU time is scarce. -/
  shares : Counter

namespace CpuMetrics

open RateNumber

variable {N : Type} [RateNumber N]

/-- The CPUs that a percentage may come from, at least one. -/
def onlineCpus (cpu : RawCpu) : Nat :=
  max cpu.onlineCpus.toNat 1

/-- The CPU time that was there to be used, in nanoseconds. -/
def window (online : Nat) (growth : CpuGrowth) : N :=
  if growth.host = 0 then ofNat growth.elapsed.nanos * ofNat online
  else ofNat growth.host.toNat

/-- The percentage of one CPU that a growth of CPU time is, from none to that
of all CPUs. -/
def percent (online : Nat) (growth : CpuGrowth) (used : Counter) : N :=
  let available : N := window online growth
  if below (ofNat 0) available then
    clamp (ofNat 0) (ofNat online * ofNat 100)
      (ofNat used.toNat / available * ofNat online * ofNat 100)
  else ofNat 0

/-- The metrics of a first sample, which has nothing to compare with. -/
def first (limitCores : N) (shares : Counter) : CpuMetrics N :=
  { cpuPercent := ofNat 0
    kernelPercent := ofNat 0
    userPercent := ofNat 0
    usedCores := ofNat 0
    limitCores
    usedCoresPercent := ofNat 0
    throttledPeriods := 0
    throttledMillis := ofNat 0
    shares }

/-- The metrics that a growth makes. -/
def ofGrowth (limitCores : N) (shares : Counter) (online : Nat)
    (growth : CpuGrowth) : CpuMetrics N :=
  let cpuPercent := percent online growth growth.total
  let usedCores := cpuPercent / ofNat 100
  { cpuPercent
    kernelPercent := percent online growth growth.kernel
    userPercent := percent online growth growth.user
    usedCores
    limitCores
    usedCoresPercent :=
      if below (ofNat 0) limitCores then ofNat 100 * usedCores / limitCores
      else ofNat 0
    throttledPeriods := growth.throttledPeriods
    throttledMillis := ofNat growth.throttledNanos.toNat / ofNat 1000000
    shares }

/-- The metrics of a sample at a time, compared with the stored one. -/
def derive (limitCores : N) (current : RawCpu) (time : Time)
    (previous : Option StoredSample) : CpuMetrics N :=
  match previous with
  | none => first limitCores current.shares
  | some previous =>
      ofGrowth limitCores current.shares (onlineCpus current)
        (current.growthSince time previous)

end CpuMetrics

end CgroupMeter
