import CgroupMeter.Stat.Cpu

/-!
# CPU time of the whole host

The file `proc/stat` of a host has a line of clock ticks for all its CPUs
together, and a line for each CPU.  The time of the host is the sum of the
first seven numbers of the former, and the host has as many CPUs as there are
lines of the latter kind.
-/

namespace CgroupMeter

/-- The CPU time of a host. -/
structure HostCpuUsage where
  /-- CPU time of all CPUs together, in nanoseconds. -/
  usage : Counter
  /-- CPUs that are in use. -/
  onlineCpus : UInt32
  deriving DecidableEq, Inhabited

/-- Why the CPU time of the host cannot be read. -/
inductive HostCpuError where
  /-- The file cannot be opened. -/
  | openFile (error : OpenError)
  /-- A line cannot be read. -/
  | readLine (path : Path) (fault : ReadFault)
  /-- No line is for all CPUs together. -/
  | missingLine (path : Path)
  /-- The line for all CPUs has too few numbers. -/
  | tooFewFields (path : Path) (line : String)
  /-- A number that is summed is none. -/
  | invalidValue (path : Path) (value : String) (cause : NumeralError)
  deriving DecidableEq

/-- The wording of a failure to read the CPU time of the host. -/
def HostCpuError.message : HostCpuError → String
  | .openFile error => error.message
  | .readLine path fault =>
      s!"failed to read line for file `{path.text}`: {fault.message}"
  | .missingLine path => s!"no aggregate `cpu` line in `{path.text}`"
  | .tooFewFields path line =>
      s!"aggregate `cpu` line in `{path.text}` has too few fields: `{line}`"
  | .invalidValue path value cause =>
      s!"invalid value `{value}` in aggregate `cpu` line of `{path.text}`: {cause.message}"

namespace HostCpuUsage

/-- What a line is about. -/
inductive LineSubject where
  | oneCpu
  | allCpus
  | other
  deriving DecidableEq

/-- The subject of a line: it is about CPUs when it starts with `cpu`, and
about one of them when a digit follows. -/
def subject (text : String) : LineSubject :=
  match text.toList with
  | 'c' :: 'p' :: 'u' :: char :: _ => if char.isDigit then .oneCpu else .allCpus
  | ['c', 'p', 'u'] => .allCpus
  | _ => .other

/-- Numbers on the line for all CPUs that are summed: user, nice, system,
idle, waiting and two kinds of interrupts. -/
def summedFields : Nat := 7

/-- The CPU time that the line for all CPUs tells. -/
def ofLine (path : Path) (text : String) : Except HostCpuError Counter :=
  match Text.words text with
  | [] => .error (.tooFewFields path (Text.trimEnd text))
  | _ :: fields =>
      if fields.length < summedFields then
        .error (.tooFewFields path (Text.trimEnd text))
      else do
        let ticks ← (fields.take summedFields).mapM fun value =>
          (Numeral.readUInt64 value).mapError (HostCpuError.invalidValue path value)
        return ticksToNanos (Counter.sum ticks)

/-- The CPU time that the lines of a file tell.  The number of CPUs wraps around
like a count of listed CPUs. -/
def ofLines (path : Path) (lines : Lines) : Except HostCpuError HostCpuUsage :=
  match lines.texts.find? fun text => subject text == .allCpus with
  | some text => do
      let usage ← ofLine path text
      let cpus := lines.texts.countP fun text => subject text == .oneCpu
      (lines.finish ⟨usage, UInt32.ofNat cpus⟩).mapError (.readLine path)
  | none => do
      let _ ← (lines.finish ()).mapError (HostCpuError.readLine path)
      .error (.missingLine path)

/-- The file with the CPU time of the host whose root is visible at a path. -/
def path (root : Path) : Path :=
  Path.below ⟨"/proc/stat"⟩ root

/-- Read the CPU time of a host. -/
def read (root : Path) : Inquiry (Except HostCpuError HostCpuUsage) := do
  match ← Inquiry.readLines (path root) with
  | .error error => return .error (.openFile error)
  | .ok lines => return ofLines (path root) lines

end HostCpuUsage

end CgroupMeter
