import CgroupMeter.Container.Inspection
import CgroupMeter.Group.StatFile
import CgroupMeter.HostCpu
import CgroupMeter.Stat.Cpuset

/-!
# Parts of a sample

A stat file that cannot be used leaves its part of a sample at zero and is
reported as a warning.  Files that the kernel only provides when a feature is
in use may be absent without a warning, and the list of CPUs is only a
fallback, so its failures are never warnings.
-/

namespace CgroupMeter

/-- The value of a result.  A failure is reported as a warning, after a
context if one is given. -/
def Inquiry.valueOrWarn {ε α : Type} (message : ε → String)
    (context : Option String) (result : Except ε α) : Inquiry (Option α) :=
  match result with
  | .ok value => return some value
  | .error error => do
      match context with
      | none => report .warn (message error)
      | some context => report .warn s!"{context}: {message error}"
      return none

/-- Reads the parts of one container's sample. -/
structure PartReader where
  id : ContainerId
  locations : GroupLocations

namespace PartReader

/-- What a report about a file starts with. -/
def context (reader : PartReader) (file : String) : String :=
  s!"container `{reader.id.text}`: {file}"

/-- Read a file, or take a default and warn. -/
def part {α : Type} (reader : PartReader) (controller file : String)
    (parse : Lines → Except ContentError α) (absent : α) : Inquiry α := do
  let result ← reader.locations.parseFile controller file parse
  let value ← Inquiry.valueOrWarn StatFileError.message
    (some (reader.context file)) result
  return value.getD absent

/-- Read a file of one value, or take zero and warn. -/
def value (reader : PartReader) (controller file : String) : Inquiry Counter :=
  reader.part controller file SingleValue.read 0

/-- Read a file of one value that may be absent, or take zero.  Only a file
that is there and cannot be used is worth a warning. -/
def optionalValue (reader : PartReader) (controller file : String) :
    Inquiry Counter := do
  match ← reader.locations.readValue controller file with
  | .ok value => return value
  | .error error =>
      if error.isNotFound then
        Inquiry.report .debug s!"{reader.context file} not present"
      else
        Inquiry.report .warn s!"{reader.context file}: {error.message}"
      return 0

/-- The count of the list of CPUs in a file. -/
def parseCpuset (lines : Lines) : Except ContentError Counter := do
  let text ← (SingleValue.firstLine lines).mapError ContentError.read
  (Cpuset.count text).mapError .parse

/-- Count the CPUs that the group may run on, if they are listed. -/
def cpuset (reader : PartReader) (file : String) : Inquiry (Option Counter) := do
  match ← reader.locations.parseFile "cpuset" file parseCpuset with
  | .ok count => return some count
  | .error error => do
      Inquiry.report .debug s!"{reader.context file}: {error.message}"
      return none

/-- Read the tasks of the group, or take none and warn. -/
def pids (reader : PartReader) : Inquiry PidsStat := do
  let result ← PidsStat.read reader.locations
  let value ← Inquiry.valueOrWarn StatFileError.message
    (some (reader.context "pids")) result
  return value.getD ⟨0, 0⟩

/-- Read the CPU time of the host, or take none and warn. -/
def hostCpu (reader : PartReader) (root : Path) : Inquiry HostCpuUsage := do
  let result ← HostCpuUsage.read root
  let value ← Inquiry.valueOrWarn HostCpuError.message
    (some s!"container `{reader.id.text}`") result
  return value.getD ⟨0, 0⟩

end PartReader

end CgroupMeter
