import CgroupMeter.Container.Inspection
import CgroupMeter.Text.Numeral

/-!
# Host processes as containers

A process of the host is taken for a container whose name is its number.  It
runs while it has a directory below `proc`.  A process that has none has ended
just now, since nothing tells when.
-/

namespace CgroupMeter

/-- Facts about the host that the collection depends on. -/
structure HostInfo where
  version : String
  driver : String
  deriving DecidableEq

namespace HostProcess

/-- The directory of a process. -/
def directory (root : Path) (pid : UInt32) : Path :=
  Path.below ⟨s!"/proc/{pid.toNat}"⟩ root

/-- Inspect a process at a moment. -/
def inspect (root : Path) (name : String) (now : Time) :
    Inquiry (Except ContainerError Inspection) := do
  match Numeral.readUInt32 name, ContainerId.ofText name with
  | .error _, _ => return .error (.invalidId name)
  | .ok _, .error error => return .error error
  | .ok pid, .ok id => do
      let runs ← Inquiry.isDirectory (directory root pid)
      return .ok
        { id
          status := if runs then .running else .exited
          pid := if runs then pid else 0
          finishedAt := if runs then none else some now
          restartCount := 0
          settings := ⟨0, 0, 0⟩ }

/-- The version of control groups that the mounted layouts make.  A host with
both layouts keeps the accounting files in the older one. -/
def versionOf (layouts : MountedLayouts) : Option String :=
  if layouts.perController then some "1"
  else if layouts.unified then some "2"
  else none

/-- Tell the facts about a host. -/
def info (root : Path) : Inquiry (Except ContainerError HostInfo) := do
  match ← MountTable.mountedLayouts root with
  | .error error => return .error (.info (.mounts error))
  | .ok layouts =>
      match versionOf layouts with
      | none => return .error (.info .nothingMounted)
      | some version => return .ok ⟨version, ""⟩

end HostProcess

end CgroupMeter
