import CgroupMeter.Proofs.Host.Running
import CgroupMeter.Proofs.Host.Walk
import CgroupMeter.Store.File

/-!
# What saving a store can do

Saving a store ends in one of five ways.  Each fixes the result and the files
of the host afterwards; `save_outcome` says that there is no other.  A store
that was saved is read back from the document that was written.
-/

namespace CgroupMeter

namespace FileStore

/-- The files after the directory of a store's path was made, and whether it
could be made. -/
def prepare (store : FileStore) (files : FileTree) :
    FileTree × Except StoreError Unit :=
  match store.path.parent with
  | none => (files, .ok ())
  | some directory =>
      ((files.makeDirectories directory).1,
        (files.makeDirectories directory).2.mapError (.write directory))

/-- The ways in which saving the entries of a store ends, each with its result
and the files after it. -/
inductive SaveOutcome (store : FileStore) (files : FileTree) :
    Except StoreError Unit → FileTree → Prop where
  | unprepared (error : StoreError)
      (refused : (store.prepare files).2 = .error error) :
      SaveOutcome store files (.error error) (store.prepare files).1
  | undrafted (cause : OsError)
      (prepared : (store.prepare files).2 = .ok ())
      (refused : (store.prepare files).1.writeFile store.draftPath
        store.entries.print.1 = .error cause) :
      SaveOutcome store files (.error (.write store.draftPath cause))
        (store.prepare files).1
  | cutOff (drafted : FileTree)
      (prepared : (store.prepare files).2 = .ok ())
      (written : (store.prepare files).1.writeFile store.draftPath
        store.entries.print.1 = .ok drafted)
      (incomplete : store.entries.print.2 = false) :
      SaveOutcome store files (.error .encode) drafted
  | unplaced (drafted : FileTree) (cause : OsError)
      (prepared : (store.prepare files).2 = .ok ())
      (written : (store.prepare files).1.writeFile store.draftPath
        store.entries.print.1 = .ok drafted)
      (complete : store.entries.print.2 = true)
      (refused : drafted.renameFile store.draftPath store.path =
        .error cause) :
      SaveOutcome store files (.error (.write store.path cause)) drafted
  | saved (drafted final : FileTree)
      (prepared : (store.prepare files).2 = .ok ())
      (written : (store.prepare files).1.writeFile store.draftPath
        store.entries.print.1 = .ok drafted)
      (complete : store.entries.print.2 = true)
      (renamed : drafted.renameFile store.draftPath store.path = .ok final) :
      SaveOutcome store files (.ok ()) final

theorem runOn_makeDirectory (store : FileStore) (host : Host) :
    store.makeDirectory.runOn host =
      ((store.prepare host.files).2,
        { host with files := (store.prepare host.files).1 }) := by
  unfold makeDirectory prepare
  cases store.path.parent with
  | none => rfl
  | some directory => simp

/-- Writing a document ends in one of the listed ways and changes only the
files. -/
theorem writeDocument_outcome (store : FileStore) (host : Host) :
    ∃ files, (store.writeDocument.runOn host).2 = { host with files } ∧
      SaveOutcome store host.files (store.writeDocument.runOn host).1 files := by
  unfold writeDocument
  rw [Task.runOn_bind, runOn_makeDirectory]
  cases prepared : (store.prepare host.files).2 with
  | error error =>
      exact ⟨_, rfl, .unprepared error prepared⟩
  | ok made =>
      simp only [Task.runOn_bind, Task.runOn_writeFile]
      cases written :
          (store.prepare host.files).1.writeFile store.draftPath
            store.entries.print.1 with
      | error cause =>
          exact ⟨_, rfl, .undrafted cause prepared written⟩
      | ok drafted =>
          cases complete : store.entries.print.2 with
          | false =>
              exact ⟨drafted, rfl, .cutOff drafted prepared written complete⟩
          | true =>
              simp only [Host.change, if_true, Task.runOn_bind,
                Task.runOn_rename]
              cases renamed :
                  drafted.renameFile store.draftPath store.path with
              | error cause =>
                  exact ⟨drafted, rfl,
                    .unplaced drafted cause prepared written complete renamed⟩
              | ok final =>
                  exact ⟨final, rfl,
                    .saved drafted final prepared written complete renamed⟩

/-- The reports of the entries that are not to be kept. -/
def evictionReports (store : FileStore) (now : Time) : List Report :=
  (store.staleKeys now).map fun key =>
    ⟨.debug, s!"Evicting stale sample of `{key}`"⟩

theorem runOn_evictionReports (store : FileStore) (now : Time) (host : Host) :
    ((store.staleKeys now).forM fun key =>
        Task.report .debug s!"Evicting stale sample of `{key}`").runOn host =
      ((), { host with reports := host.reports ++ store.evictionReports now }) :=
  Task.runOn_forM_report .debug _ (store.staleKeys now) host

/-- Saving reads the clock once, drops the entries that are not to be kept
then, and writes the others. -/
theorem save_outcome (store : FileStore) (host : Host) :
    (store.save.runOn host).1.1 = store.evicted (host.clock host.readings) ∧
      ∃ files reports,
        (store.save.runOn host).2 =
          { host with
            files
            readings := host.readings + 1
            reports := host.reports ++ reports } ∧
        SaveOutcome (store.evicted (host.clock host.readings)) host.files
          (store.save.runOn host).1.2 files := by
  rcases (store.evicted (host.clock host.readings)).writeDocument_outcome
      { host with
        readings := host.readings + 1
        reports := host.reports ++
          store.evictionReports (host.clock host.readings) } with
    ⟨files, after, outcome⟩
  unfold save
  simp only [Task.runOn_bind, Task.runOn_readClock, runOn_evictionReports]
  generalize (store.evicted (host.clock host.readings)).writeDocument.runOn
    _ = ran at after outcome ⊢
  rcases ran with ⟨result, left⟩
  simp only at after outcome
  rw [after]
  cases result with
  | error error => exact ⟨rfl, files, _, rfl, outcome⟩
  | ok saved =>
      let kept := store.evicted (host.clock host.readings)
      refine ⟨rfl, files, store.evictionReports (host.clock host.readings) ++
        [⟨.debug, s!"Saved {kept.entries.size} samples to `{kept.path.text}`"⟩],
        ?_, outcome⟩
      rw [← List.append_assoc]
      rfl

/-- A document that took the place of the file is read at its path. -/
theorem SaveOutcome.openFile {store : FileStore} {files after : FileTree}
    (outcome : SaveOutcome store files (.ok ()) after) :
    store.entries.print.2 = true ∧
      after.openFile store.path = .ok (.file store.entries.print.1) := by
  cases outcome with
  | saved drafted final prepared written complete renamed =>
      refine ⟨complete, ?_⟩
      rcases FileTree.writeFile_eq_ok written with
        ⟨directory, name, placed, notDirectory, rfl⟩
      rcases FileTree.openFile_renameFile renamed with
        ⟨sameDirectory, sameName, bytes, placedAgain, isFile, opened⟩
      have keeps :=
        FileTree.keepsDirectories_setEntry notDirectory
          (some (.file store.entries.print.1))
      have place := (placed.of_keepsDirectories keeps rfl).place
      rw [placedAgain.place] at place
      cases place
      rw [FileTree.entry_setEntry, if_neg (List.cons_ne_nil _ _),
        if_pos rfl] at isFile
      cases isFile
      exact opened

/-- A directory that cannot be made is a file that cannot be written. -/
theorem prepare_eq_error {store : FileStore} {files : FileTree}
    {error : StoreError} (refused : (store.prepare files).2 = .error error) :
    ∃ path cause, error = .write path cause := by
  unfold prepare at refused
  split at refused
  · cases refused
  · rename_i directory parent
    cases made : (files.makeDirectories directory).2 with
    | ok there =>
        rw [made] at refused
        cases refused
    | error cause =>
        rw [made] at refused
        cases refused
        exact ⟨directory, cause, rfl⟩

/-- A complete document is saved whenever it can be written. -/
theorem SaveOutcome.eq_ok {store : FileStore} {files after : FileTree}
    {result : Except StoreError Unit}
    (outcome : SaveOutcome store files result after)
    (complete : store.entries.print.2 = true)
    (written : ∀ path cause, result ≠ .error (.write path cause)) :
    result = .ok () := by
  cases outcome with
  | unprepared error refused =>
      rcases prepare_eq_error refused with ⟨path, cause, rfl⟩
      exact absurd rfl (written path cause)
  | undrafted cause prepared refused =>
      exact absurd rfl (written store.draftPath cause)
  | cutOff drafted prepared drafts incomplete =>
      rw [complete] at incomplete
      cases incomplete
  | unplaced drafted cause prepared drafts completed refused =>
      exact absurd rfl (written store.path cause)
  | saved drafted final prepared drafts completed renamed => rfl

/-- What is found in a store depends only on what is read at its path. -/
theorem found_openEntries (path : Path) (files : FileTree) :
    (openEntries path).found files =
      match files.openFile path with
      | .ok opened => .ok ((readEntries opened).toOption.getD KeyMap.empty)
      | .error cause =>
          if cause = .notFound then .ok KeyMap.empty
          else .error (.read path cause) := by
  have opening : Program.eval files.view (Inquiry.openFile path) =
      (files.openFile path).mapError fun cause => ⟨path, cause⟩ := rfl
  unfold openEntries
  rw [Inquiry.found, Program.eval_bind, opening]
  cases files.openFile path with
  | ok opened =>
      simp only [Except.mapError]
      cases readEntries opened with
      | ok entries => rfl
      | error cause => rfl
  | error cause =>
      simp only [Except.mapError, OpenError.isNotFound]
      by_cases missing : cause = .notFound
      · simp [missing, Inquiry.report, Inquiry.ask]
      · simp [missing]

theorem found_openAt (path : Path) (lifetime : Option Duration)
    (files : FileTree) :
    (openAt path lifetime).found files =
      ((openEntries path).found files).map fun entries =>
        ⟨path, lifetime, entries⟩ := by
  unfold openAt
  rw [Inquiry.found, Inquiry.found, Program.eval_bind]
  cases Program.eval files.view (openEntries path) with
  | error error => rfl
  | ok entries => rfl

end FileStore

end CgroupMeter
