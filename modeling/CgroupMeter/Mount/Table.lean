import CgroupMeter.Host.Inquiry
import CgroupMeter.KeyMap
import CgroupMeter.Mount.Entry

/-!
# Control group hierarchies in the mount table

The mount table of a host tells which hierarchies of control groups it has.
In the older layout each controller has a hierarchy of its own, or shares one,
and the controllers are among the options of the mount.  In the newer layout
one hierarchy unifies all controllers.

A table is read as the entries up to the first line that cannot be used, and
what is wrong with that line.  A look-up that needs all entries fails for that
line; the look-up of the unified hierarchy stops at the first match.
-/

namespace CgroupMeter

/-- Why a look-up in the mount table fails. -/
inductive MountError where
  | openFile (error : OpenError)
  | readLine (path : Path) (fault : ReadFault)
  | parse (path : Path) (error : MissingField)
  | missingMount (fsType : String) (path : Path)
  deriving DecidableEq

namespace MountError

/-- The wording of a failed look-up. -/
def message : MountError → String
  | .openFile error => error.message
  | .readLine path fault =>
      s!"failed to read line for file `{path.text}`: {fault.message}"
  | .parse path error =>
      s!"failed to parse line in file `{path.text}`: {error.message}"
  | .missingMount fsType path =>
      s!"no `{fsType}` mount found in file `{path.text}`"

/-- The table itself does not exist. -/
def isNotFound : MountError → Bool
  | .openFile error => error.isNotFound
  | _ => false

end MountError

/-- A mount table, as far as it can be used. -/
structure MountTable where
  /-- Where the table was read. -/
  path : Path
  /-- The entries before the first line that cannot be used. -/
  entries : List MountEntry
  /-- What is wrong with that line, if there is one. -/
  fault : Option MountError

/-- Which layouts of control groups are mounted. -/
structure MountedLayouts where
  perController : Bool
  unified : Bool
  deriving DecidableEq

namespace MountTable

/-- The file system type of hierarchies of single controllers. -/
def controllerFsType : String := "cgroup"

/-- The file system type of the unified hierarchy. -/
def unifiedFsType : String := "cgroup2"

/-- The controllers that can be among the options of a mount. -/
def knownControllers : List String :=
  ["blkio", "cpu", "cpuacct", "cpuset", "devices", "freezer", "hugetlb",
    "memory", "misc", "net_cls", "net_prio", "perf_event", "pids", "rdma"]

/-- The mount table of the host whose root is visible at a path. -/
def tablePath (root : Path) : Path :=
  Path.below ⟨"/proc/mounts"⟩ root

/-- The entries of texts up to the first that lacks a column.  Blank lines are
skipped. -/
def parseTexts : List String → List MountEntry × Option MissingField
  | [] => ([], none)
  | text :: rest =>
      if Text.isBlankText text then parseTexts rest
      else
        match MountEntry.ofLine text with
        | .error error => ([], some error)
        | .ok entry =>
            let (entries, error) := parseTexts rest
            (entry :: entries, error)

/-- The table that lines tell. -/
def ofLines (path : Path) (lines : Lines) : MountTable :=
  let (entries, missing) := parseTexts lines.texts
  ⟨path, entries,
    match missing with
    | some error => some (.parse path error)
    | none => lines.fault.map (.readLine path)⟩

/-- Read the mount table of a host. -/
def read (root : Path) : Inquiry (Except MountError MountTable) := do
  match ← Inquiry.readLines (tablePath root) with
  | .error error => return .error (.openFile error)
  | .ok lines => return .ok (ofLines (tablePath root) lines)

/-- The value that all entries together give, if every line can be used. -/
def finish {α : Type} (table : MountTable) (value : α) : Except MountError α :=
  match table.fault with
  | none => .ok value
  | some error => .error error

/-! ## Which layouts are mounted -/

/-- The controllers among the options of an entry. -/
def controllers (entry : MountEntry) : List String :=
  entry.optionList.filter fun option => option ∈ knownControllers

/-- The layouts that are mounted.  A hierarchy without a controller, which has
a name instead, holds no accounting files and does not count. -/
def layouts (table : MountTable) : MountedLayouts where
  perController := table.entries.any fun entry =>
    entry.fsType == controllerFsType && !(controllers entry).isEmpty
  unified := table.entries.any fun entry => entry.fsType == unifiedFsType

/-- Report a hierarchy that does not count. -/
def reportWithoutControllers (entry : MountEntry) : Inquiry Unit :=
  if entry.fsType = controllerFsType ∧ controllers entry = [] then
    Inquiry.report .debug
      s!"Ignoring cgroup v1 mount without controllers: {entry.mountPoint}"
  else pure ()

/-- Find which layouts are mounted on a host. -/
def mountedLayouts (root : Path) :
    Inquiry (Except MountError MountedLayouts) := do
  match ← read root with
  | .error error => return .error error
  | .ok table => do
      table.entries.forM reportWithoutControllers
      return table.finish table.layouts

/-! ## Hierarchies of single controllers -/

/-- The controllers of an entry, each with the directory that holds its
hierarchy under its own name: the parent of the mount point.  An entry of
another type, or mounted at the root, has none. -/
def controllerDirectories (root : Path) (fsType : String) (entry : MountEntry) :
    List (String × Path) :=
  if entry.fsType = fsType then
    match Path.parent ⟨entry.mountPoint⟩ with
    | none => []
    | some parent =>
        (controllers entry).map fun controller => (controller, parent.below root)
  else []

/-- Report what an entry adds. -/
def reportControllers (fsType : String) (entry : MountEntry) : Inquiry Unit :=
  if entry.fsType = fsType then
    match Path.parent ⟨entry.mountPoint⟩ with
    | none =>
        Inquiry.report .debug
          s!"Ignoring cgroup mount without parent directory: \"{entry.mountPoint}\""
    | some _ =>
        (controllers entry).forM fun controller =>
          Inquiry.report .trace
            s!"Found cgroup v1 controller `{controller}` mounted at `{entry.mountPoint}`"
  else pure ()

/-- Find the directory of each controller's hierarchy, as seen below the root.
A later mount of a controller replaces an earlier one. -/
def controllerMounts (root : Path) (fsType : String) :
    Inquiry (Except MountError (KeyMap Path)) := do
  match ← read root with
  | .error error => return .error error
  | .ok table => do
      table.entries.forM (reportControllers fsType)
      let mounts := KeyMap.ofList
        (table.entries.flatMap (controllerDirectories root fsType))
      return do
        let mounts ← table.finish mounts
        if mounts.isEmpty then .error (.missingMount fsType table.path)
        else .ok mounts

/-! ## The unified hierarchy -/

/-- Find where the first mount of a type is, as seen below the root.  Lines
after it do not matter. -/
def unifiedMount (root : Path) (fsType : String) :
    Inquiry (Except MountError Path) := do
  match ← read root with
  | .error error => return .error error
  | .ok table =>
      match table.entries.find? fun entry => entry.fsType == fsType with
      | some entry => do
          Inquiry.report .debug
            s!"Found `{fsType}` mount point: {entry.mountPoint}"
          return .ok (Path.below ⟨entry.mountPoint⟩ root)
      | none => return do
          table.finish ()
          .error (.missingMount fsType table.path)

end MountTable

end CgroupMeter
