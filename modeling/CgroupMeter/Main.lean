import CgroupMeter.CommandLine
import Std.Time.DateTime.Timestamp

/-!
# The program on a real host

Answers the actions of a task from the operating system and runs the command
line.  All decisions are made by the task; this module only carries them out.
Reports of errors are shown on the standard error stream.
-/

namespace CgroupMeter.RealHost

/-- The operating system's number of an error, and its wording. -/
def errorNumber : IO.Error → Option (UInt32 × String)
  | .alreadyExists _ number details => some (number, details)
  | .otherError number details => some (number, details)
  | .resourceBusy number details => some (number, details)
  | .resourceVanished number details => some (number, details)
  | .unsupportedOperation number details => some (number, details)
  | .hardwareFault number details => some (number, details)
  | .unsatisfiedConstraints number details => some (number, details)
  | .illegalOperation number details => some (number, details)
  | .protocolError number details => some (number, details)
  | .timeExpired number details => some (number, details)
  | .interrupted _ number details => some (number, details)
  | .noFileOrDirectory _ number details => some (number, details)
  | .invalidArgument _ number details => some (number, details)
  | .permissionDenied _ number details => some (number, details)
  | .resourceExhausted _ number details => some (number, details)
  | .inappropriateType _ number details => some (number, details)
  | .noSuchThing _ number details => some (number, details)
  | .unexpectedEof => none
  | .userError _ => none

/-- The cause with a number.  Some functions of the system negate it. -/
def causeOfNumber (number : UInt32) (details : String) : OsError :=
  match min number (0 - number) with
  | 2 => .notFound
  | 16 => .busy
  | 17 => .alreadyExists
  | 20 => .notADirectory
  | 21 => .isADirectory
  | 36 => .nameTooLong
  | positive => .other s!"{details} (os error {positive})"

/-- The cause that an error of the operating system stands for. -/
def causeOf (error : IO.Error) : OsError :=
  match errorNumber error with
  | some (number, details) => causeOfNumber number details
  | none => .other (toString error)

/-- The result of an action, with the cause if it fails. -/
def attempt {α : Type} (action : IO α) : IO (Except OsError α) := do
  try
    return .ok (← action)
  catch error =>
    return .error (causeOf error)

/-- The entry at a path. -/
def openEntry (path : Path) : IO (Except OsError Entry) := do
  let content := do (← IO.FS.Handle.mk path.text .read).readBinToEnd
  match ← attempt content with
  | .ok bytes => return .ok (.file bytes.data.toList)
  | .error .isADirectory => return .ok .directory
  | .error cause => return .error cause

/-- Show a report to the caller if it is one of an error. -/
def showReport (report : Report) : IO Unit := do
  if report.level.shownAt .error then
    IO.eprintln s!"[{report.level.name}] {report.text}"

/-- The CPUs that a line of a process status allows the process, if it is about
them. -/
def allowedCpus? (line : String) : Option UInt32 :=
  match Text.words line with
  | ["Cpus_allowed_list:", cpus] =>
      (Cpuset.count cpus).toOption.map fun count => UInt32.ofNat count.toNat
  | _ => none

/-- The CPUs that this process may run on, or one if that cannot be told.  A
quota of CPU time is not taken into account. -/
def countVisibleCpus : IO UInt32 := do
  match ← openEntry ⟨"/proc/self/status"⟩ with
  | .ok status =>
      return ((Lines.ofEntry status).texts.findSome? allowedCpus?).getD 1
  | .error _ => return 1

/-- Answer a query. -/
def answerQuery : (query : Query) → IO query.Answer
  | .openFile path => openEntry path
  | .isDirectory path => do
      let opened ← openEntry path
      return (opened matches .ok .directory)
  | .visibleCpus => countVisibleCpus
  | .report report => showReport report

/-- What the clock shows. -/
def readClock : IO Time := do
  let now ← Std.Time.Timestamp.now
  return ⟨now.toNanosecondsSinceUnixEpoch.val⟩

/-- Answer an action. -/
def answer : (action : Action) → IO action.Answer
  | .inquire query => answerQuery query
  | .readClock => readClock
  | .makeDirectories path =>
      if path.text = "" then return Except.ok ()
      else attempt (IO.FS.createDirAll path.text)
  | .writeFile path bytes =>
      attempt (IO.FS.writeBinFile path.text ⟨bytes.toArray⟩)
  | .rename source target =>
      attempt (IO.FS.rename source.text target.text)
  | .emit bytes => attempt do
      let output ← IO.getStdout
      output.write ⟨bytes.toArray⟩
      output.flush

/-- The variables of the environment that set the program. -/
def readVariables : IO (String → Option String) := do
  let names := [Settings.rootVariable, Settings.storePathVariable,
    Settings.rememberedVariable, Settings.lifetimeVariable,
    Settings.versionVariable]
  let values ← names.mapM fun name => do return (name, ← IO.getEnv name)
  return fun name => (values.lookup name).join

/-- Run the program with the given arguments. -/
def run (arguments : List String) : IO UInt32 := do
  let environment ← readVariables
  let result ← Program.runIn answer (CommandLine.run arguments environment)
  if let .error error := result then
    IO.eprintln s!"Error: {error.message}"
  return CommandLine.exitCode result

end CgroupMeter.RealHost

/-- The entry point. -/
def main (arguments : List String) : IO UInt32 :=
  CgroupMeter.RealHost.run arguments
