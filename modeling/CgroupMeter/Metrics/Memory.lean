import CgroupMeter.Metrics.Rate
import CgroupMeter.Sample.Raw

/-!
# Memory metrics

Memory metrics are those of one sample.  A limit as large as no memory can be
is no limit and is shown as zero.  Swap is counted only together with memory,
so what is swapped out is the difference of two counters; where the combined
one is the smaller, swap is not counted and its metrics are left out.
-/

namespace CgroupMeter

/-- Memory metrics of a container. -/
structure MemoryMetrics where
  /-- Anonymous memory, in bytes. -/
  usage : Counter
  /-- The page cache, in bytes. -/
  cache : Counter
  /-- Memory that the kernel uses for the container, in bytes. -/
  kernelUsage : Counter
  /-- The limit of memory in bytes, zero for none. -/
  limit : Counter
  /-- Anonymous memory in percent of the limit. -/
  usagePercent : Float
  /-- Memory and swap in use, in bytes, where swap is counted. -/
  swapUsage : Option Counter
  /-- Swap in use, in bytes, where it is counted. -/
  swappedOut : Option Counter
  /-- Memory and swap in use, in percent of the limit of both, where swap is
  counted. -/
  swapLimitPercent : Option Float
  /-- The limit of memory and swap in bytes, zero for none. -/
  swapLimit : Counter
  /-- Memory that the container is to keep, in bytes. -/
  softLimit : Counter

namespace MemoryMetrics

/-- From this limit on there is no limit: half the largest signed number of 64
bits. -/
def unlimitedFrom : Counter := 4611686018427387903

/-- A limit, or zero where there is none. -/
def shownLimit (limit : Counter) : Counter :=
  if unlimitedFrom ≤ limit then 0 else limit

/-- The memory metrics of a sample, without those of swap. -/
def withoutSwap (raw : RawMemory) : MemoryMetrics :=
  let limit := shownLimit raw.usageLimit
  { usage := raw.rss
    cache := raw.cache
    kernelUsage := raw.kernelUsage
    limit
    usagePercent := RateNumber.percentOf raw.rss limit
    swapUsage := none
    swappedOut := none
    swapLimitPercent := none
    swapLimit := shownLimit raw.swapLimit
    softLimit := shownLimit raw.softLimit }

/-- The memory metrics of a sample. -/
def ofRaw (raw : RawMemory) : MemoryMetrics :=
  let metrics := withoutSwap raw
  if raw.fuzzUsage ≤ raw.swapUsage then
    let swappedOut := raw.swapUsage - raw.fuzzUsage
    let usage := Counter.add raw.rss swappedOut
    { metrics with
      swappedOut := some swappedOut
      swapUsage := some usage
      swapLimitPercent := some (RateNumber.percentOf usage metrics.swapLimit) }
  else metrics

end MemoryMetrics

/-- Swap metrics of a container. -/
structure SwapMetrics where
  /-- Memory and swap in use, in bytes. -/
  usage : Counter
  /-- Swap in use, in bytes. -/
  swappedOut : Counter
  /-- Memory and swap in use, in percent of the limit of both. -/
  limitPercent : Float

/-- The swap metrics, if none of them is left out. -/
def MemoryMetrics.swap (metrics : MemoryMetrics) : Option SwapMetrics :=
  match metrics.swapUsage, metrics.swappedOut, metrics.swapLimitPercent with
  | some usage, some swappedOut, some limitPercent =>
      some ⟨usage, swappedOut, limitPercent⟩
  | _, _, _ => none

end CgroupMeter
