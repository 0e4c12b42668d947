import CgroupMeter.Container.Id
import CgroupMeter.Group.Location
import CgroupMeter.Text.Blank

/-!
# Why a sample cannot be taken

Taking a sample fails only when it is not known where the groups of the
container are, or when its network counters cannot be read.  Choosing the
layout of control groups fails for causes of its own.
-/

namespace CgroupMeter

/-- Why the network counters of a process cannot be read. -/
inductive NetworkError where
  | openFile (error : OpenError)
  | read (fault : ReadFault)
  deriving DecidableEq

/-- The wording of network counters that cannot be read. -/
def NetworkError.message : NetworkError → String
  | .openFile error => error.message
  | .read fault => fault.message

/-- Why a sample cannot be taken. -/
inductive FetchError where
  /-- The container has no process. -/
  | noProcess (id : ContainerId)
  /-- It is not known where the groups of the container are. -/
  | locations (id : ContainerId) (error : LocationError)
  /-- The network counters cannot be read. -/
  | network (id : ContainerId) (path : Path) (error : NetworkError)
  /-- The mount table does not tell the layout. -/
  | detect (error : MountError)
  /-- No control group hierarchy is mounted. -/
  | nothingMounted
  /-- No layout has that version. -/
  | unsupportedVersion (version : String)
  deriving DecidableEq

/-- The wording of a sample that cannot be taken. -/
def FetchError.message : FetchError → String
  | .noProcess id => s!"container `{id.text}` has no running process"
  | .locations id error =>
      s!"failed to resolve cgroup of container `{id.text}`: {error.message}"
  | .network id path error =>
      s!"failed to read network stats of container `{id.text}` from `{path.text}`: {error.message}"
  | .detect error => s!"failed to detect cgroup version: {error.message}"
  | .nothingMounted => "no cgroup filesystem mounted"
  | .unsupportedVersion version => s!"unsupported cgroup version `{version}`"

namespace GroupLayout

/-- The layout of a version of control groups, written with blanks around it
or without. -/
def ofVersion (version : String) : Except FetchError GroupLayout :=
  match Text.trim version with
  | "1" => .ok .perController
  | "2" => .ok .unified
  | other => .error (.unsupportedVersion other)

/-- The layout to use on a host with the mounted layouts.  A host with both
keeps the accounting files in the older one. -/
def ofMounted (layouts : MountedLayouts) : Except FetchError GroupLayout :=
  if layouts.perController then .ok .perController
  else if layouts.unified then .ok .unified
  else .error .nothingMounted

/-- Find the layout to use on a host. -/
def detect (root : Path) : Inquiry (Except FetchError GroupLayout) := do
  match ← MountTable.mountedLayouts root with
  | .error error => return .error (.detect error)
  | .ok layouts => return ofMounted layouts

end GroupLayout

end CgroupMeter
