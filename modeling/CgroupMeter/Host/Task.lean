import CgroupMeter.Host.Inquiry
import CgroupMeter.Time

/-!
# Tasks of the host

A task asks the host for more than its files: it reads the clock, changes
files and gives output.  A task is a program; `Host` is a state on which it
can be run without the real host.
-/

namespace CgroupMeter

/-- What a task asks of the host. -/
inductive Action where
  /-- Put a query. -/
  | inquire (query : Query)
  /-- Read the clock. -/
  | readClock
  /-- Make a directory and the parents it lacks. -/
  | makeDirectories (path : Path)
  /-- Write a file anew: make it or empty it, write the bytes, and close it. -/
  | writeFile (path : Path) (bytes : List UInt8)
  /-- Give a file another path, in place of the file that may be there. -/
  | rename (source target : Path)
  /-- Give output, all of it or none. -/
  | emit (bytes : List UInt8)

/-- The answer to an action. -/
@[reducible]
def Action.Answer : Action → Type
  | .inquire query => query.Answer
  | .readClock => Time
  | .makeDirectories _ => Except OsError Unit
  | .writeFile _ _ => Except OsError Unit
  | .rename _ _ => Except OsError Unit
  | .emit _ => Except OsError Unit

/-- A program that acts on the host. -/
abbrev Task := Program Action Action.Answer

namespace Task

/-- Ask for one action. -/
def ask (action : Action) : Task action.Answer :=
  Program.request action

/-- An inquiry as a task. -/
def ofInquiry {α : Type} (inquiry : Inquiry α) : Task α :=
  inquiry.runIn fun query => ask (.inquire query)

/-- Make a report. -/
def report (level : Level) (text : String) : Task Unit :=
  ofInquiry (Inquiry.report level text)

/-- Read the clock. -/
def readClock : Task Time :=
  ask .readClock

/-- Make a directory and the parents it lacks. -/
def makeDirectories (path : Path) : Task (Except OsError Unit) :=
  ask (.makeDirectories path)

/-- Write a file anew. -/
def writeFile (path : Path) (bytes : List UInt8) : Task (Except OsError Unit) :=
  ask (.writeFile path bytes)

/-- Give a file another path. -/
def rename (source target : Path) : Task (Except OsError Unit) :=
  ask (.rename source target)

/-- Give output. -/
def emit (bytes : List UInt8) : Task (Except OsError Unit) :=
  ask (.emit bytes)

end Task

/-- A host as a value.  It takes all output that is given. -/
structure Host where
  files : FileTree
  clock : Nat → Time
  readings : Nat
  reports : List Report
  output : List UInt8

namespace Host

/-- A host with the given files and clock on which nothing was done yet. -/
def fresh (files : FileTree) (clock : Nat → Time) : Host :=
  ⟨files, clock, 0, [], []⟩

/-- Answer a query. -/
def answerQuery (query : Query) (host : Host) : query.Answer × Host :=
  (host.files.view query,
    { host with reports := host.reports ++ query.report?.toList })

/-- Take over changed files, if there was no error. -/
def change (host : Host) (changed : Except OsError FileTree) :
    Except OsError Unit × Host :=
  match changed with
  | .ok files => (.ok (), { host with files })
  | .error cause => (.error cause, host)

/-- Answer an action. -/
def answer (action : Action) (host : Host) : action.Answer × Host :=
  match action with
  | .inquire query => host.answerQuery query
  | .readClock =>
      (host.clock host.readings, { host with readings := host.readings + 1 })
  | .makeDirectories path =>
      let (files, result) := host.files.makeDirectories path
      (result, { host with files })
  | .writeFile path bytes => host.change (host.files.writeFile path bytes)
  | .rename source target => host.change (host.files.renameFile source target)
  | .emit bytes => (.ok (), { host with output := host.output ++ bytes })

end Host

namespace Task

variable {α β : Type}

/-- Run a task on a host. -/
def runOn (task : Task α) (host : Host) : α × Host :=
  (Program.runIn (m := StateM Host) Host.answer task).run host

@[simp]
theorem runOn_pure (value : α) (host : Host) :
    runOn (pure value) host = (value, host) := rfl

@[simp]
theorem runOn_bind (task : Task α) (next : α → Task β) (host : Host) :
    runOn (task >>= next) host =
      (next (task.runOn host).1).runOn (task.runOn host).2 := by
  simp only [runOn, Program.runIn_bind]
  rfl

@[simp]
theorem runOn_ask (action : Action) (host : Host) :
    runOn (ask action) host = Host.answer action host := by
  simp only [runOn, ask, Program.runIn_request]
  rfl

/-- An inquiry finds what the files hold, makes its reports and changes
nothing else. -/
@[simp]
theorem runOn_ofInquiry (inquiry : Inquiry α) (host : Host) :
    runOn (ofInquiry inquiry) host =
      (inquiry.found host.files,
        { host with reports := host.reports ++ inquiry.reports host.files }) := by
  induction inquiry generalizing host with
  | done value =>
      simp [ofInquiry, Program.runIn, Inquiry.found, Inquiry.reports,
        Program.eval, Program.trace]
  | ask query next ih =>
      have asked :
          runOn (ofInquiry (Program.ask query next)) host =
            runOn (ofInquiry (next (host.answerQuery query).1))
              (host.answerQuery query).2 := rfl
      rw [asked, ih]
      cases reported : query.report? <;>
        simp [Host.answerQuery, Inquiry.found, Inquiry.reports, Program.eval,
          Program.trace, reported]

end Task

end CgroupMeter
