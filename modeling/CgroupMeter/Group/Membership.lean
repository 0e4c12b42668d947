import CgroupMeter.Host.Inquiry
import CgroupMeter.KeyMap

/-!
# Which groups a process belongs to

The file `proc/<pid>/cgroup` has a line `hierarchy:controllers:path` for each
hierarchy.  The controllers are separated by commas and share the path of the
group, which may itself hold colons.  The line of the unified hierarchy has
the hierarchy `0` and no controllers.
-/

namespace CgroupMeter

/-- Why the groups of a process cannot be read. -/
inductive MembershipError where
  | openFile (error : OpenError)
  | readLine (path : Path) (fault : ReadFault)
  | parse (path : Path) (line : Nat) (content : String)
  | missingUnified (path : Path)
  deriving DecidableEq

namespace MembershipError

/-- The wording of a failure to read the groups of a process. -/
def message : MembershipError → String
  | .openFile error => error.message
  | .readLine path fault =>
      s!"failed to read line for file `{path.text}`: {fault.message}"
  | .parse path line content =>
      s!"malformed cgroup membership at line {line} of `{path.text}`: `{content}`"
  | .missingUnified path =>
      s!"no unified `0::<path>` entry in `{path.text}`"

/-- The file does not exist: the process is gone. -/
def isNotFound : MembershipError → Bool
  | .openFile error => error.isNotFound
  | _ => false

end MembershipError

/-- The membership of a process in the group of one hierarchy. -/
structure Membership where
  hierarchy : String
  controllers : String
  group : String
  deriving DecidableEq

namespace Membership

/-- The file with the groups of a process. -/
def filePath (root : Path) (pid : UInt32) : Path :=
  Path.below ⟨s!"/proc/{pid.toNat}/cgroup"⟩ root

/-- The membership that a line tells. -/
def ofLine (text : String) : Option Membership := do
  let (hierarchy, rest) ← Text.cut ':' text
  let (controllers, group) ← Text.cut ':' rest
  return ⟨hierarchy, controllers, group⟩

/-- The memberships on numbered lines, without empty lines, or the number and
the content of the first line that tells none. -/
def parseTexts : Nat → List String → Except (Nat × String) (List Membership)
  | _, [] => .ok []
  | number, text :: rest =>
      if text = "" then parseTexts (number + 1) rest
      else
        match ofLine text with
        | none => .error (number, text)
        | some membership =>
            (parseTexts (number + 1) rest).map (membership :: ·)

/-- The memberships that lines tell, all of which have to be usable. -/
def ofLines (path : Path) (lines : Lines) :
    Except MembershipError (List Membership) :=
  match parseTexts 1 lines.texts with
  | .error (number, content) => .error (.parse path number content)
  | .ok memberships => (lines.finish memberships).mapError (.readLine path)

/-- Read the memberships of a process. -/
def read (root : Path) (pid : UInt32) :
    Inquiry (Except MembershipError (List Membership)) := do
  let path := filePath root pid
  match ← Inquiry.readLines path with
  | .error error => return .error (.openFile error)
  | .ok lines => return ofLines path lines

/-- The controllers of a membership, each with the path of the group. -/
def controllerGroups (membership : Membership) : List (String × String) :=
  ((Text.split ',' membership.controllers).filter (· != "")).map fun controller =>
    (controller, membership.group)

/-- The group path of each controller.  A later line replaces an earlier
one. -/
def groupsByController (memberships : List Membership) : KeyMap String :=
  KeyMap.ofList (memberships.flatMap controllerGroups)

/-- The membership is that of the unified hierarchy. -/
def isUnified (membership : Membership) : Bool :=
  membership.hierarchy == "0" && membership.controllers == ""

/-- The group path in the unified hierarchy: the first one that is told. -/
def unifiedGroup (memberships : List Membership) : Option String :=
  (memberships.find? isUnified).map group

/-- Read the group path of each controller of a process. -/
def readByController (root : Path) (pid : UInt32) :
    Inquiry (Except MembershipError (KeyMap String)) := do
  return (← read root pid).map groupsByController

/-- Read the group path of a process in the unified hierarchy. -/
def readUnified (root : Path) (pid : UInt32) :
    Inquiry (Except MembershipError String) := do
  match ← read root pid with
  | .error error => return .error error
  | .ok memberships =>
      match unifiedGroup memberships with
      | some group => return .ok group
      | none => return .error (.missingUnified (filePath root pid))

end Membership

end CgroupMeter
