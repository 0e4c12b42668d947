import CgroupMeter.Sample.Raw

/-!
# Stored samples

What is kept of a sample until the next one of the same container: its CPU
counters and when it was taken.
-/

namespace CgroupMeter

/-- The CPU counters of a container's last sample. -/
structure StoredSample where
  time : Time
  cpu : RawCpu

/-- What is kept of a sample. -/
def RawSample.stored (sample : RawSample) : StoredSample :=
  ⟨sample.time, sample.cpu⟩

end CgroupMeter
