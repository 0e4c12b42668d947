import CgroupMeter.Group.Membership
import CgroupMeter.Mount.Table

/-!
# Where the files of a process's groups are

The mount table tells where hierarchies are, and the memberships of a process
tell where its groups are in them.  Together they give the directory of the
group of each controller: below the root, the directory that holds the
controller's hierarchy, the controller's name, and the path of the group.  In
the unified hierarchy all controllers share the directory of one group.
-/

namespace CgroupMeter

/-- Why the directory of a group is not known. -/
inductive LocationError where
  /-- The mount table gives no answer. -/
  | mounts (error : MountError)
  /-- The memberships of the process give no answer. -/
  | membership (error : MembershipError)
  /-- The controller has no hierarchy, or the process no group in it. -/
  | missingController (controller : String)
  /-- None of the controllers that are read has a directory. -/
  | noControllers (pid : UInt32)
  deriving DecidableEq

namespace LocationError

/-- The wording of an unknown directory. -/
def message : LocationError → String
  | .mounts error => s!"failed to read mount table: {error.message}"
  | .membership error => s!"failed to read cgroup membership: {error.message}"
  | .missingController controller =>
      s!"cgroup controller `{controller}` is not mounted or not joined by the process"
  | .noControllers pid =>
      s!"no cgroup controller could be resolved for pid {pid.toNat}"

/-- Something that the answer needs does not exist. -/
def isNotFound : LocationError → Bool
  | .mounts error => error.isNotFound
  | .membership error => error.isNotFound
  | .missingController _ => true
  | .noControllers _ => true

end LocationError

/-- The layout of control groups on a host. -/
inductive GroupLayout where
  /-- Each controller has a hierarchy of its own, or shares one. -/
  | perController
  /-- One hierarchy unifies all controllers. -/
  | unified
  deriving DecidableEq

/-- The name of a layout in reports: the version of control groups. -/
def GroupLayout.versionName : GroupLayout → String
  | .perController => "V1"
  | .unified => "V2"

/-- Where the groups of one process are. -/
inductive GroupLocations where
  /-- The directory of each controller's hierarchy, and the path of the group
  in it. -/
  | perController (mounts : KeyMap Path) (groups : KeyMap String)
  /-- The directory of the group in the unified hierarchy. -/
  | unified (directory : Path)

namespace GroupLocations

/-- A group path without the slashes it starts with. -/
def relativeGroup (group : String) : Path :=
  ⟨String.ofList (group.toList.dropWhile (· == '/'))⟩

/-- The group of a process in the unified hierarchy mounted at a path. -/
def ofUnified (mount : Path) (group : String) : GroupLocations :=
  .unified (mount.join (relativeGroup group))

/-- The directory of the group of a controller. -/
def directory (locations : GroupLocations) (controller : String) :
    Except LocationError Path :=
  match locations with
  | .unified directory => .ok directory
  | .perController mounts groups =>
      match mounts.find? controller, groups.find? controller with
      | some mount, some group =>
          .ok ((mount.join ⟨controller⟩).join (relativeGroup group))
      | _, _ => .error (.missingController controller)

/-- The path of a file in the group of a controller. -/
def statFile (locations : GroupLocations) (controller file : String) :
    Except LocationError Path :=
  (locations.directory controller).map fun directory => directory.join ⟨file⟩

/-- The controllers whose files are read when each has its hierarchy. -/
def readControllers : List String :=
  ["blkio", "cpu", "cpuacct", "cpuset", "memory", "pids"]

/-- Some controller whose files are read has a directory. -/
def reachesController (locations : GroupLocations) : Bool :=
  readControllers.any fun controller =>
    locations.directory controller matches .ok _

/-- Find the groups of a process in the hierarchies of single controllers. -/
def resolvePerController (root : Path) (pid : UInt32) :
    Inquiry (Except LocationError GroupLocations) := do
  match ← MountTable.controllerMounts root MountTable.controllerFsType with
  | .error error => return .error (.mounts error)
  | .ok mounts =>
      match ← Membership.readByController root pid with
      | .error error => return .error (.membership error)
      | .ok groups =>
          let locations := perController mounts groups
          if locations.reachesController then return .ok locations
          else return .error (.noControllers pid)

/-- Find the group of a process in the unified hierarchy. -/
def resolveUnified (root : Path) (pid : UInt32) :
    Inquiry (Except LocationError GroupLocations) := do
  match ← MountTable.unifiedMount root MountTable.unifiedFsType with
  | .error error => return .error (.mounts error)
  | .ok mount =>
      match ← Membership.readUnified root pid with
      | .error error => return .error (.membership error)
      | .ok group => return .ok (ofUnified mount group)

/-- Find the groups of a process in a layout. -/
def resolve (layout : GroupLayout) (root : Path) (pid : UInt32) :
    Inquiry (Except LocationError GroupLocations) :=
  match layout with
  | .perController => resolvePerController root pid
  | .unified => resolveUnified root pid

end GroupLocations

end CgroupMeter
