import CgroupMeter.Container.Id
import CgroupMeter.Counter
import CgroupMeter.Mount.Table
import CgroupMeter.Text.Quoted
import CgroupMeter.Time

/-!
# Inspections of containers

An inspection tells what is known of a container at one moment: whether it
runs, which process of the host is its first, and with which settings it was
made.
-/

namespace CgroupMeter

/-- The state of a container's life. -/
inductive ContainerStatus where
  | created
  | running
  | paused
  | restarting
  | removing
  | exited
  | dead
  | other (name : String)
  deriving DecidableEq

/-- The state with a name. -/
def ContainerStatus.ofName (name : String) : ContainerStatus :=
  match name with
  | "created" => .created
  | "running" => .running
  | "paused" => .paused
  | "restarting" => .restarting
  | "removing" => .removing
  | "exited" => .exited
  | "dead" => .dead
  | _ => .other name

/-- The text that shows a state. -/
def ContainerStatus.shown : ContainerStatus → String
  | .created => "Created"
  | .running => "Running"
  | .paused => "Paused"
  | .restarting => "Restarting"
  | .removing => "Removing"
  | .exited => "Exited"
  | .dead => "Dead"
  | .other name => s!"Other({Text.quoted name})"

/-- The settings that a container was made with.  Zero is unset. -/
structure ResourceSettings where
  /-- Its weight when CPU time is scarce. -/
  cpuShares : Counter
  /-- The CPUs it may use, in billionths of one. -/
  nanoCpus : Counter
  /-- Memory that it is to keep, in bytes. -/
  memoryReservation : Counter
  deriving DecidableEq, Inhabited

/-- What is known of a container. -/
structure Inspection where
  /-- The name of the container. -/
  id : ContainerId
  /-- The state of its life. -/
  status : ContainerStatus
  /-- Its first process on the host, zero when it does not run. -/
  pid : UInt32
  /-- When it ended, if that is known. -/
  finishedAt : Option Time
  /-- How often it was started again. -/
  restartCount : UInt32
  /-- The settings it was made with. -/
  settings : ResourceSettings
  deriving DecidableEq

/-- Why facts about the host cannot be told. -/
inductive InfoFailure where
  | mounts (error : MountError)
  | nothingMounted
  | other (text : String)
  deriving DecidableEq

/-- The wording of missing facts about the host. -/
def InfoFailure.message : InfoFailure → String
  | .mounts error => error.message
  | .nothingMounted => "no cgroup filesystem mounted"
  | .other text => text

/-- Why a container cannot be inspected. -/
inductive ContainerError where
  | invalidId (text : String)
  | notFound (id : String)
  | inspect (id cause : String)
  | info (cause : InfoFailure)
  deriving DecidableEq

/-- The wording of a failed inspection. -/
def ContainerError.message : ContainerError → String
  | .invalidId text => s!"invalid container id: {text}"
  | .notFound id => s!"container `{id}` not found"
  | .inspect id cause => s!"failed to inspect container `{id}`: {cause}"
  | .info cause => s!"failed to query runtime info: {cause.message}"

/-- The name that a text is, or the error that it is none. -/
def ContainerId.ofText (text : String) : Except ContainerError ContainerId :=
  match ofText? text with
  | some id => .ok id
  | none => .error (.invalidId text)

end CgroupMeter
