import CgroupMeter.Proofs.Store.FailedSave

/-!
# Paths that making their directory leaves as they are

Saving a store makes the directory of its path first.  That can lead the path
to another file, when it goes up from a directory that was missing, or bring a
name to light that is too long.  A path is settled when it does not.

A path that is settled stays so in every save, and a save that fails leaves
what is read there as it was.
-/

namespace CgroupMeter.FileStore

/-- Making the directory of a store changes nothing in what is read at its
path. -/
def Settled (store : FileStore) (files : FileTree) : Prop :=
  (store.prepare files).1.openFile store.path = files.openFile store.path

theorem settled_of_openFile {store : FileStore} {files : FileTree}
    {entry : Entry} (opened : files.openFile store.path = .ok entry) :
    store.Settled files :=
  (openFile_prepare_of_ok opened).trans opened.symm

theorem prepare_idempotent (store : FileStore) (files : FileTree) :
    (store.prepare (store.prepare files).1).1 = (store.prepare files).1 := by
  unfold prepare
  cases store.path.parent with
  | none => rfl
  | some directory =>
      simp only [FileTree.makeDirectories, Path.ancestors]
      exact FileTree.makeChain_idempotent files _ directory

theorem settled_prepare (store : FileStore) (files : FileTree) :
    store.Settled (store.prepare files).1 := by
  rw [Settled, prepare_idempotent]

/-- Making a directory that was made changes nothing, also after the draft was
written. -/
theorem prepare_of_drafted {store : FileStore} {files drafted : FileTree}
    {bytes : List UInt8} (made : (store.prepare files).2 = .ok ())
    (written : (store.prepare files).1.writeFile store.draftPath bytes =
      .ok drafted) :
    (store.prepare drafted).1 = drafted := by
  rcases FileTree.writeFile_eq_ok written with
    ⟨place, name, placed, notDirectory, rfl⟩
  have keeps :=
    FileTree.keepsDirectories_setEntry notDirectory (some (.file bytes))
  unfold prepare at made keeps ⊢
  cases found : store.path.parent with
  | none => rfl
  | some directory =>
      rw [found] at made keeps
      simp only [FileTree.makeDirectories] at made keeps ⊢
      cases chain : directory.ancestors with
      | nil => rfl
      | cons first outer =>
          rw [chain] at made keeps
          have whole :
              (files.makeChain (first :: outer)).2 = .ok () := by
            cases result : (files.makeChain (first :: outer)).2 with
            | ok there => rfl
            | error cause =>
                rw [result] at made
                cases made
          have there := FileTree.isDirectory_makeChain whole
          rw [FileTree.makeChain_of_isDirectory]
          exact FileTree.isDirectory_of_keepsDirectories keeps rfl there

/-- A save that fails leaves what is read at a settled path as it was, and the
path settled, unless it has the extension of drafts. -/
theorem SaveOutcome.settled {store : FileStore} {files after : FileTree}
    {error : StoreError} (apart : store.path.extension ≠ some draftExtension)
    (settled : store.Settled files)
    (outcome : SaveOutcome store files (.error error) after) :
    after.openFile store.path = files.openFile store.path ∧
      store.Settled after := by
  have kept : after.openFile store.path =
      (store.prepare files).1.openFile store.path := by
    have elsewhere : ¬ store.DraftInPlace error := by
      intro inPlace
      exact apart (outcome.draftInPlace inPlace).1
    rcases outcome.not_draftInPlace elsewhere with same | ⟨extension, -⟩
    · exact same
    · exact absurd extension apart
  refine ⟨kept.trans settled, ?_⟩
  cases outcome with
  | unprepared error refused => exact settled_prepare store files
  | undrafted cause prepared refused => exact settled_prepare store files
  | cutOff drafted prepared written incomplete =>
      rw [Settled, prepare_of_drafted prepared written]
  | unplaced drafted cause prepared written complete refused =>
      rw [Settled, prepare_of_drafted prepared written]

end CgroupMeter.FileStore
