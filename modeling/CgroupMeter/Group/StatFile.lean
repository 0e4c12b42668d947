import CgroupMeter.Group.Location
import CgroupMeter.Stat.SingleValue

/-!
# Reading a stat file of a group

A stat file is found through the locations of the groups, opened and read.
It counts as not found when its controller has no directory or when it does
not exist, never for what it says.
-/

namespace CgroupMeter

/-- Why a stat file of a group gives no value. -/
inductive StatFileError where
  | unresolved (error : LocationError)
  | openFile (error : OpenError)
  | content (error : ContentError)
  deriving DecidableEq

namespace StatFileError

/-- The wording of a stat file that gives no value. -/
def message : StatFileError → String
  | .unresolved error => error.message
  | .openFile error => error.message
  | .content error => error.message

/-- The file does not exist, as far as can be told. -/
def isNotFound : StatFileError → Bool
  | .unresolved _ => true
  | .openFile error => error.isNotFound
  | .content _ => false

end StatFileError

/-- Read the file at a path. -/
def Inquiry.parseFile {α : Type} (path : Path)
    (parse : Lines → Except ContentError α) :
    Inquiry (Except StatFileError α) := do
  match ← Inquiry.readLines path with
  | .error error => return .error (.openFile error)
  | .ok lines => return (parse lines).mapError .content

namespace GroupLocations

/-- Read a file in the group of a controller. -/
def parseFile {α : Type} (locations : GroupLocations) (controller file : String)
    (parse : Lines → Except ContentError α) :
    Inquiry (Except StatFileError α) :=
  match locations.statFile controller file with
  | .error error => return .error (.unresolved error)
  | .ok path => Inquiry.parseFile path parse

/-- Read a file of one value in the group of a controller. -/
def readValue (locations : GroupLocations) (controller file : String) :
    Inquiry (Except StatFileError Counter) :=
  locations.parseFile controller file SingleValue.read

end GroupLocations

/-- The tasks of a group. -/
structure PidsStat where
  /-- Tasks in the group. -/
  current : Counter
  /-- The most tasks it may have, zero without a limit. -/
  limit : Counter
  deriving DecidableEq, Inhabited

namespace PidsStat

/-- A limit of tasks as it is kept: no limit is zero. -/
def limitOf (limit : Counter) : Counter :=
  if limit = Counter.largest then 0 else limit

/-- Read the tasks of a group.  The limit is only read after the current
number. -/
def read (locations : GroupLocations) : Inquiry (Except StatFileError PidsStat) := do
  match ← locations.readValue "pids" "pids.current" with
  | .error error => return .error error
  | .ok current =>
      match ← locations.readValue "pids" "pids.max" with
      | .error error => return .error error
      | .ok limit => return .ok ⟨current, limitOf limit⟩

end PidsStat

end CgroupMeter
