import CgroupMeter.Proofs.Group.Lookup
import CgroupMeter.Proofs.Sample.Accounts

/-!
# Which samples can be taken

Taking a sample fails for a container without a process, else for groups that
are not known, else for network counters that cannot be read to the end.  No
other file matters: a stat file may be missing, malformed, no text or a
directory, and the sample is taken all the same.
-/

namespace CgroupMeter

namespace RawSample

/-- The network counters of a process are a file, and all its lines are
text. -/
def NetworkReadable (root : Path) (pid : UInt32) (tree : FileTree) : Prop :=
  ∃ lines, tree.byteLinesAt (networkPath root pid) = some lines ∧
    ∀ line ∈ lines, Lines.Readable line

/-- The network counters are told exactly when they can be read to the end. -/
theorem found_readNetwork_iff {root : Path} {pid : UInt32} {tree : FileTree} :
    (∃ network, (readNetwork root pid).found tree = .ok network) ↔
      NetworkReadable root pid tree := by
  rw [found_readNetwork]
  unfold NetworkReadable
  cases file : tree.byteLinesAt (networkPath root pid) with
  | none =>
      rcases FileTree.linesAt_of_byteLinesAt_eq_none file with
        ⟨error, opened⟩ | opened
      · simp [opened]
      · simp [opened, Lines.finish, Except.mapError]
  | some lines =>
      rw [FileTree.linesAt_of_byteLinesAt file]
      simp only [Option.some.injEq, exists_eq_left',
        ← Lines.fault_ofByteLines_eq_none_iff]
      cases fault : (Lines.ofByteLines lines).fault <;>
        simp [Lines.finish, fault, Except.mapError]

/-- A sample is refused for a missing process, then for unknown groups, then
for unreadable network counters, and for nothing else.  The files are those of
a tree without links and permissions, from a disk that does not fail; a file
that is refused for such a cause is treated like one that cannot be opened. -/
theorem fetch_outcome (layout : GroupLayout) (root : Path) (time : Time)
    (inspection : Inspection) (tree : FileTree) :
    ((fetch layout root time inspection).found tree =
        .error (.noProcess inspection.id) ↔ inspection.pid = 0) ∧
      ((∃ error, (fetch layout root time inspection).found tree =
          .error (.locations inspection.id error)) ↔
        inspection.pid ≠ 0 ∧
          ¬ GroupLocations.Known layout root inspection.pid tree) ∧
      ((∃ error, (fetch layout root time inspection).found tree =
          .error (.network inspection.id
            (networkPath root inspection.pid) error)) ↔
        inspection.pid ≠ 0 ∧
          GroupLocations.Known layout root inspection.pid tree ∧
          ¬ NetworkReadable root inspection.pid tree) ∧
      ((∃ raw, (fetch layout root time inspection).found tree = .ok raw) ↔
        inspection.pid ≠ 0 ∧
          GroupLocations.Known layout root inspection.pid tree ∧
          NetworkReadable root inspection.pid tree) := by
  rw [found_fetch, ← GroupLocations.found_resolve_iff, ← found_readNetwork_iff]
  by_cases gone : inspection.pid = 0
  · simp [gone]
  · cases located :
        (GroupLocations.resolve layout root inspection.pid).found tree with
    | error error => simp [gone]
    | ok locations =>
        cases counted : (readNetwork root inspection.pid).found tree <;>
          simp [gone]

/-- The tree of a host with a mount table, the memberships of the process 7,
no network counters of it, and further entries. -/
def hostTree (mounts membership : String) (further : List (Location × Entry)) :
    FileTree :=
  let entries : List (Location × Entry) :=
    [(["proc"], .directory), (["7", "proc"], .directory),
      (["net", "7", "proc"], .directory), (["dev", "net", "7", "proc"], .file []),
      (["mounts", "proc"], .file (Text.toBytes mounts)),
      (["cgroup", "7", "proc"], .file (Text.toBytes membership))]
  (entries ++ further).foldl
    (fun tree placed => tree.setEntry placed.1 (some placed.2))
    (FileTree.empty [])

/-- A host whose network counters are a directory. -/
def networkDirectory : FileTree :=
  hostTree "cgroup2 /c cgroup2 rw" "0::/"
    [(["dev", "net", "7", "proc"], .directory)]

/-- A container with the process 7. -/
def processSeven : Inspection :=
  { id := ⟨"job", by decide⟩, status := .running, pid := 7, finishedAt := none,
    restartCount := 0, settings := ⟨0, 0, 0⟩ }

/-- That network counters can be opened and have no line that is no text is
not enough. -/
theorem no_sample_of_network_directory :
    ¬ ((∃ raw, (fetch .unified ⟨"/"⟩ ⟨0⟩ processSeven).found networkDirectory =
          .ok raw) ↔
        processSeven.pid ≠ 0 ∧
          GroupLocations.Known .unified ⟨"/"⟩ processSeven.pid
            networkDirectory ∧
          ∃ entry, networkDirectory.openFile
              (networkPath ⟨"/"⟩ processSeven.pid) = .ok entry ∧
            ∀ bytes, entry = .file bytes →
              ∀ line ∈ Text.linesBy Text.newline bytes,
                Lines.Readable line) := by
  intro claimed
  have located : ((GroupLocations.resolve .unified ⟨"/"⟩
      processSeven.pid).found networkDirectory).isOk = true := by
    decide +kernel
  have known : GroupLocations.Known .unified ⟨"/"⟩ processSeven.pid
      networkDirectory :=
    GroupLocations.found_resolve_iff.1 (exists_ok_of_isOk located)
  have opened : networkDirectory.openFile
      (networkPath ⟨"/"⟩ processSeven.pid) = .ok .directory := by
    rfl
  rcases claimed.2 ⟨by decide, known, .directory, opened, nofun⟩ with
    ⟨raw, taken⟩
  have refused : ((fetch .unified ⟨"/"⟩ ⟨0⟩ processSeven).found
      networkDirectory).isOk = false := by
    decide +kernel
  rw [taken] at refused
  cases refused

end RawSample

end CgroupMeter
