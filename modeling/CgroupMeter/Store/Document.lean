import CgroupMeter.Json.Parser
import CgroupMeter.Json.Real
import CgroupMeter.Json.Time
import CgroupMeter.KeyMap
import CgroupMeter.Store.Sample

/-!
# Documents of samples

The document of a store is an object with one member for each container, in
ascending order of their names.  Reading a document refuses it as a whole when
any part of it is not as it should be.
-/

namespace CgroupMeter

/-- What a store keeps of a container. -/
structure StoreEntry where
  updatedAt : Time
  sample : StoredSample

namespace RawCpu

/-- The names of the CPU counters in a document. -/
def fieldNames : List String :=
  ["total_usage", "usage_in_usermode", "usage_in_kernelmode", "percpu_usage",
    "system_usage", "online_cpus", "throttling_periods", "throttled_periods",
    "throttled_time_ns", "shares", "limit_cores"]

/-- Write CPU counters. -/
def toJson (cpu : RawCpu) : WrittenJson :=
  .object (fieldNames.zip [
    Json.ofUInt64 cpu.totalUsage, Json.ofUInt64 cpu.userUsage,
    Json.ofUInt64 cpu.kernelUsage, .array (cpu.perCpuUsage.map Json.ofUInt64),
    Json.ofUInt64 cpu.systemUsage, Json.ofNat cpu.onlineCpus.toNat,
    Json.ofUInt64 cpu.throttlingPeriods, Json.ofUInt64 cpu.throttledPeriods,
    Json.ofUInt64 cpu.throttledNanos, Json.ofUInt64 cpu.shares,
    Json.ofFloat cpu.limitCores])

/-- Read a list of counters. -/
def counters? : ReadJson → Option (List Counter)
  | .array items => items.mapM ReadJson.uint64?
  | _ => none

/-- Read CPU counters. -/
def ofJson? (value : ReadJson) : Option RawCpu := do
  match ← value.fields? fieldNames with
  | [total, user, kernel, perCpu, system, online, throttling, throttled,
      throttledNanos, shares, limit] =>
      return {
        totalUsage := ← total.uint64?
        userUsage := ← user.uint64?
        kernelUsage := ← kernel.uint64?
        perCpuUsage := ← counters? perCpu
        systemUsage := ← system.uint64?
        onlineCpus := ← online.uint32?
        throttlingPeriods := ← throttling.uint64?
        throttledPeriods := ← throttled.uint64?
        throttledNanos := ← throttledNanos.uint64?
        shares := ← shares.uint64?
        limitCores := ← limit.float? }
  | _ => none

end RawCpu

namespace StoredSample

/-- Write a stored sample. -/
def toJson (sample : StoredSample) : Except Json.Cut WrittenJson :=
  Json.objectOf [("timestamp", sample.time.toJson), ("cpu", .ok sample.cpu.toJson)]

/-- Read a stored sample. -/
def ofJson? (value : ReadJson) : Option StoredSample := do
  match ← value.fields? ["timestamp", "cpu"] with
  | [time, cpu] => return ⟨← Time.ofJson? time, ← RawCpu.ofJson? cpu⟩
  | _ => none

end StoredSample

namespace StoreEntry

/-- Write an entry of a store. -/
def toJson (entry : StoreEntry) : Except Json.Cut WrittenJson :=
  Json.objectOf [
    ("updated_at", entry.updatedAt.toJson), ("sample", entry.sample.toJson)]

/-- Read an entry of a store. -/
def ofJson? (value : ReadJson) : Option StoreEntry := do
  match ← value.fields? ["updated_at", "sample"] with
  | [updatedAt, sample] =>
      return ⟨← Time.ofJson? updatedAt, ← StoredSample.ofJson? sample⟩
  | _ => none

end StoreEntry

/-- The entries of a store by container. -/
abbrev StoreEntries := KeyMap StoreEntry

namespace StoreEntries

/-- Write the document of a store. -/
def toJson (entries : StoreEntries) : Except Json.Cut WrittenJson :=
  Json.objectOf
    (entries.entries.map fun entry => (entry.1, entry.2.toJson))

/-- Read the document of a store.  Of several members of one name the last
counts. -/
def ofJson? : ReadJson → Option StoreEntries
  | .object members => do
      let named ← ReadJson.members? members
      let entries ← named.mapM fun member => do
        return (member.1, ← StoreEntry.ofJson? member.2)
      return KeyMap.ofList entries
  | _ => none

/-- The document of a store as bytes, up to the first time that has no form
in it, and whether there is such a time. -/
def print (entries : StoreEntries) : List UInt8 × Bool :=
  let written := toJson entries
  (Json.printUpTo written, written matches .ok _)

/-- The entries in a document given as bytes. -/
def parse? (bytes : List UInt8) : Option StoreEntries := do
  ofJson? (← Json.parse bytes)

end StoreEntries

end CgroupMeter
