import CgroupMeter.Proofs.Host.Directories
import CgroupMeter.Proofs.Path.Extension
import CgroupMeter.Proofs.Store.Saving

/-!
# Saves that fail

A save that fails has at most written a draft.  The draft stands beside the
file under another name, so that the file is read as before, unless the path
of the file has the extension of drafts itself.  In that case the draft of a
document that is cut off is left in place of the last saved one.
-/

namespace CgroupMeter.FileStore

/-- The extension of drafts. -/
def draftExtension : String := "tmp"

/-- The name of a draft beside a name. -/
def draftName (name : String) : String :=
  (Path.cutName name).1 ++ "." ++ draftExtension

theorem isVoid_draftName (name : String) :
    Path.isVoid (draftName name) = false := by
  have long : 2 ≤ (draftName name).toList.length := by
    simp only [draftName, draftExtension, String.toList_append,
      List.length_append]
    have extension : ("tmp" : String).toList.length = 3 := by decide
    omega
  have notEmpty : draftName name ≠ "" := by
    intro empty
    rw [empty] at long
    exact absurd long (by decide)
  have notDot : draftName name ≠ "." := by
    intro dot
    rw [dot] at long
    exact absurd long (by decide)
  simp [Path.isVoid, notEmpty, notDot]

/-- A draft has another name than the file, unless the file has the extension
of drafts. -/
theorem draftName_eq_iff {path : Path} {outer voids : List String}
    {name : String} (ends : path.EndsIn outer name voids) (notUp : name ≠ "..") :
    draftName name = name ↔ path.extension = some draftExtension := by
  rw [ends.extension notUp]
  exact Path.cutName_append_eq_iff

/-- A draft that stands beside the name in which the path of the store ends. -/
structure DraftBeside (store : FileStore) (files drafted : FileTree)
    (bytes : List UInt8) (outer : List String) (name : String)
    (voids : List String) (directory : Location) : Prop where
  /-- The path of the store ends in this name. -/
  ends : store.path.EndsIn outer name voids
  /-- The name is no step upwards. -/
  notUp : name ≠ ".."
  /-- The path of the draft has the same outer segments. -/
  draft : store.draftPath.EndsIn outer (draftName name) []
  /-- They lead to this location. -/
  walked : files.walk (files.start store.path) outer = .ok directory
  /-- It is a directory. -/
  found : files.entry directory = some .directory
  /-- The name of the draft is not too long. -/
  short : (draftName name).utf8ByteSize ≤ FileTree.nameLimit
  /-- There was no directory in the place of the draft. -/
  free : files.entry (draftName name :: directory) ≠ some .directory
  /-- Nothing else has changed. -/
  drafted : drafted =
    files.setEntry (draftName name :: directory) (some (.file bytes))

theorem draftBeside_of_writeFile {store : FileStore}
    {files drafted : FileTree} {bytes : List UInt8}
    (written : files.writeFile store.draftPath bytes = .ok drafted) :
    ∃ outer name voids directory,
      store.DraftBeside files drafted bytes outer name voids directory := by
  rcases FileTree.writeFile_eq_ok written with
    ⟨directory, last, placed, notDirectory, rfl⟩
  rcases placed.ends with ⟨draftOuter, draftEnds, walked⟩
  cases named : store.path.fileName with
  | none =>
      have same : store.draftPath = store.path :=
        Path.withExtension_of_nameless named draftExtension
      rw [same] at draftEnds
      rw [draftEnds.fileName placed.notUp] at named
      cases named
  | some name =>
      rcases Path.exists_endsIn_of_fileName named with
        ⟨notUp, outer, voids, ends⟩
      have clean : Path.IsSegment draftExtension := by
        simp [Path.IsSegment, draftExtension]
      rcases ends.withExtension notUp clean with segments | ⟨rest, up⟩
      · have beside : store.draftPath.EndsIn outer (draftName name) [] :=
          ⟨segments, isVoid_draftName name, by simp⟩
        rcases draftEnds.unique beside with ⟨rfl, rfl, -⟩
        have start : files.start store.draftPath = files.start store.path := by
          have absolute :=
            Path.isAbsolute_congr beside.segments ends.segments
              (Path.ne_empty_of_named beside.named)
              (Path.ne_empty_of_named ends.named)
          simp only [FileTree.start, absolute]
        rw [start] at walked
        exact ⟨draftOuter, name, voids, directory, ends, notUp, beside, walked,
          placed.directory, placed.short, notDirectory, rfl⟩
      · rcases draftEnds.unique up with ⟨-, isUp, -⟩
        exact absurd isUp placed.notUp

namespace DraftBeside

variable {store : FileStore} {files drafted : FileTree} {bytes : List UInt8}
    {outer voids : List String} {name : String} {directory : Location}

/-- Writing a draft does not change what is read at the path, unless that has
the extension of drafts. -/
theorem openFile
    (beside : store.DraftBeside files drafted bytes outer name voids directory)
    (apart : store.path.extension ≠ some draftExtension) :
    drafted.openFile store.path = files.openFile store.path := by
  have different : name ≠ draftName name := by
    intro same
    exact apart ((draftName_eq_iff beside.ends beside.notUp).1 same.symm)
  rw [beside.drafted]
  exact FileTree.openFile_setEntry beside.ends beside.notUp beside.walked
    beside.found beside.free different (some (.file bytes))

/-- A draft at the path itself is read there. -/
theorem openFile_same
    (beside : store.DraftBeside files drafted bytes outer name voids directory)
    (written : files.writeFile store.draftPath bytes = .ok drafted)
    (same : store.draftPath = store.path) :
    drafted.openFile store.path = .ok (.file bytes) := by
  rcases FileTree.writeFile_eq_ok written with
    ⟨found, last, placed, notDirectory, rfl⟩
  have keeps :=
    FileTree.keepsDirectories_setEntry notDirectory (some (.file bytes))
  have again := placed.of_keepsDirectories keeps rfl
  rw [same] at again
  apply again.openFile
  rw [FileTree.entry_setEntry, if_neg (List.cons_ne_nil _ _), if_pos rfl]

/-- Writing a draft over the file of a path that goes on after its name leaves
the path unreadable. -/
theorem openFile_slashed
    (beside : store.DraftBeside files drafted bytes outer name voids directory)
    (inPlace : store.path.extension = some draftExtension)
    (other : store.draftPath ≠ store.path) :
    drafted.openFile store.path = files.openFile store.path ∨
      (files.openFile store.path = .error .notFound ∧
        drafted.openFile store.path = .error .notADirectory) := by
  have same : draftName name = name :=
    (draftName_eq_iff beside.ends beside.notUp).2 inPlace
  have goesOn : voids ≠ [] := by
    rintro rfl
    refine other (Path.ext_segments ?_)
    rw [beside.draft.segments, beside.ends.segments, same]
  rcases List.exists_cons_of_ne_nil goesOn with ⟨void, rest, rfl⟩
  have short := beside.short
  have free := beside.free
  have written := beside.drafted
  rw [same] at short free written
  have keeps :=
    FileTree.keepsDirectories_setEntry free (some (.file bytes))
  rw [← written] at keeps
  have kept := keeps directory beside.found
  have now : drafted.entry (name :: directory) = some (.file bytes) := by
    rw [written, FileTree.entry_setEntry, if_neg (List.cons_ne_nil _ _),
      if_pos rfl]
  have home : drafted.start store.path = files.start store.path := by
    rw [written]
    rfl
  have walked : drafted.walk (drafted.start store.path) outer = .ok directory := by
    rw [home]
    apply FileTree.walk_of_keepsDirectories keeps beside.walked
    rw [kept]
    rfl
  -- A walk to a path that goes on stops at the name.
  have stopped (tree : FileTree) (accepted : FileTree.checkText store.path = .ok ())
      (arrived : tree.walk (tree.start store.path) outer = .ok directory)
      (found : tree.entry directory = some .directory) :
      (tree.entry (name :: directory) = none →
        tree.openFile store.path = .error .notFound) ∧
      (∀ held, tree.entry (name :: directory) = some (.file held) →
        tree.openFile store.path = .error .notADirectory) := by
    have opening := FileTree.openFile_eq_openAt tree store.path
    rw [accepted, beside.ends.segments, FileTree.openAt,
      FileTree.walk_append, arrived] at opening
    simp only [Except.bind, FileTree.walk_cons,
      FileTree.follow_name found beside.ends.named beside.notUp,
      if_neg (Nat.not_lt.2 short)] at opening
    constructor
    · intro missing
      simpa [missing] using opening
    · intro held isFile
      simpa [isFile, FileTree.follow] using opening
  cases accepted : FileTree.checkText store.path with
  | error cause =>
      apply Or.inl
      rw [FileTree.openFile_eq_openAt, FileTree.openFile_eq_openAt, accepted]
      rfl
  | ok checked =>
      have after := (stopped drafted accepted walked kept).2 bytes now
      have before := stopped files accepted beside.walked beside.found
      cases earlier : files.entry (name :: directory) with
      | none => exact Or.inr ⟨before.1 earlier, after⟩
      | some entry =>
          cases entry with
          | directory => exact absurd earlier free
          | file held => exact Or.inl (after.trans (before.2 held earlier).symm)

end DraftBeside

section Outcomes

variable {store : FileStore} {files after : FileTree} {error : StoreError}

theorem openFile_prepare_of_ok {entry : Entry}
    (opened : files.openFile store.path = .ok entry) :
    (store.prepare files).1.openFile store.path = .ok entry := by
  unfold prepare
  cases store.path.parent with
  | none => exact opened
  | some directory =>
      exact FileTree.openFile_makeDirectories_of_ok directory opened

theorem openFile_prepare (grounded : files.Grounded)
    (plain : FileTree.PlainPath store.path) :
    (store.prepare files).1.openFile store.path =
      files.openFile store.path := by
  unfold prepare
  cases found : store.path.parent with
  | none => rfl
  | some directory =>
      exact FileTree.openFile_makeDirectories grounded plain found

theorem prepare_ne_encode : (store.prepare files).2 ≠ .error .encode := by
  unfold prepare
  cases store.path.parent with
  | none =>
      intro equal
      cases equal
  | some directory =>
      simp only
      cases (files.makeDirectories directory).2 with
      | ok made =>
          intro equal
          cases equal
      | error cause =>
          intro equal
          cases equal

theorem renameFile_self {drafted : FileTree} {path : Path}
    {bytes : List UInt8} (written : files.writeFile path bytes = .ok drafted) :
    drafted.renameFile path path = .ok drafted := by
  rcases FileTree.writeFile_eq_ok written with
    ⟨directory, name, placed, notDirectory, rfl⟩
  have keeps :=
    FileTree.keepsDirectories_setEntry notDirectory (some (.file bytes))
  have place := (placed.of_keepsDirectories keeps rfl).place
  simp [FileTree.renameFile, place, bind, Except.bind]

/-- A save that fails has changed nothing but the directories it made, or has
written its draft. -/
theorem SaveOutcome.of_error
    (outcome : SaveOutcome store files (.error error) after) :
    (after = (store.prepare files).1 ∧ error ≠ .encode) ∨
      ((store.prepare files).1.writeFile store.draftPath
          store.entries.print.1 = .ok after ∧
        (error = .encode ∧ store.entries.print.2 = false ∨
          error ≠ .encode ∧ store.draftPath ≠ store.path)) := by
  cases outcome with
  | unprepared error refused =>
      refine Or.inl ⟨rfl, ?_⟩
      rintro rfl
      exact prepare_ne_encode refused
  | undrafted cause prepared refused =>
      refine Or.inl ⟨rfl, ?_⟩
      intro equal
      cases equal
  | cutOff drafted prepared written incomplete =>
      exact Or.inr ⟨written, Or.inl ⟨rfl, incomplete⟩⟩
  | unplaced drafted cause prepared written complete refused =>
      refine Or.inr ⟨written, Or.inr ⟨?_, ?_⟩⟩
      · intro equal
        cases equal
      · intro same
        rw [same] at written refused
        rw [renameFile_self written] at refused
        cases refused

/-- The draft of a save that failed so was written in place of the last saved
document. -/
def DraftInPlace (store : FileStore) (error : StoreError) : Prop :=
  store.draftPath = store.path ∧ error = .encode

/-- A draft in place of the file is what is read there. -/
theorem SaveOutcome.draftInPlace
    (outcome : SaveOutcome store files (.error error) after)
    (inPlace : store.DraftInPlace error) :
    store.path.extension = some draftExtension ∧
      store.entries.print.2 = false ∧
      after.openFile store.path = .ok (.file store.entries.print.1) := by
  rcases inPlace with ⟨same, rfl⟩
  rcases outcome.of_error with ⟨-, notEncode⟩ | ⟨written, kind⟩
  · exact absurd rfl notEncode
  · rcases kind with ⟨-, incomplete⟩ | ⟨notEncode, -⟩
    · rcases draftBeside_of_writeFile written with
        ⟨outer, name, voids, directory, beside⟩
      refine ⟨?_, incomplete, beside.openFile_same written same⟩
      apply (draftName_eq_iff beside.ends beside.notUp).1
      have draft := beside.draft
      rw [same] at draft
      exact (draft.unique beside.ends).2.1
    · exact absurd rfl notEncode

/-- Every other draft leaves the path as it was, but for a path that goes on
after a name with the extension of drafts. -/
theorem SaveOutcome.not_draftInPlace
    (outcome : SaveOutcome store files (.error error) after)
    (elsewhere : ¬ store.DraftInPlace error) :
    after.openFile store.path = (store.prepare files).1.openFile store.path ∨
      (store.path.extension = some draftExtension ∧
        store.draftPath ≠ store.path ∧
        (store.prepare files).1.openFile store.path = .error .notFound ∧
        after.openFile store.path = .error .notADirectory) := by
  rcases outcome.of_error with ⟨rfl, -⟩ | ⟨written, kind⟩
  · exact Or.inl rfl
  · have other : store.draftPath ≠ store.path := by
      rcases kind with ⟨encode, -⟩ | ⟨-, other⟩
      · intro same
        exact elsewhere ⟨same, encode⟩
      · exact other
    rcases draftBeside_of_writeFile written with
      ⟨outer, name, voids, directory, beside⟩
    by_cases extension : store.path.extension = some draftExtension
    · rcases beside.openFile_slashed extension other with
        same | ⟨missing, blocked⟩
      · exact Or.inl same
      · exact Or.inr ⟨extension, other, missing, blocked⟩
    · exact Or.inl (beside.openFile extension)

end Outcomes

/-- What is read at the path of a store, and the entries found there, are the
same. -/
structure SameDocument (path : Path) (before after : FileTree) : Prop where
  opened : after.openFile path = before.openFile path
  entries : (openEntries path).found after = (openEntries path).found before

theorem sameDocument_of_openFile {path : Path} {before after : FileTree}
    (opened : after.openFile path = before.openFile path) :
    SameDocument path before after := by
  refine ⟨opened, ?_⟩
  rw [found_openEntries, found_openEntries, opened]

/-- A failed save leaves the last saved document as it was, unless the path of
the store has the extension of drafts and the document could not be written in
full: then the document that is cut off has taken its place.

Where there was no document before, there is none afterwards either, if making
the directory of the path cannot lead to another file and nothing goes on
after a name with the extension of drafts.

The saves are those on a tree of files without links, and on a disk that takes
what is written: one that fails after the draft was emptied, while its bytes
are written or when it is closed, is left out.  Such a draft is cut off too,
and takes the place of the document under the same condition only. -/
theorem failed_save_keeps_document_unless_draft_in_place (store : FileStore)
    (host : Host) (error : StoreError)
    (failed : (store.save.runOn host).1.2 = .error error) :
    let before := host.files
    let after := (store.save.runOn host).2.files
    let document := (store.evicted (host.clock host.readings)).entries.print
    (store.DraftInPlace error →
      store.path.extension = some draftExtension ∧
        document.2 = false ∧
        after.openFile store.path = .ok (.file document.1)) ∧
    (¬ store.DraftInPlace error →
      (∀ entry, before.openFile store.path = .ok entry →
        SameDocument store.path before after) ∧
      (before.Grounded → FileTree.PlainPath store.path →
        (store.path.extension = some draftExtension →
          store.draftPath = store.path) →
        SameDocument store.path before after) ∧
      (after.openFile store.path =
          (store.prepare before).1.openFile store.path ∨
        (store.path.extension = some draftExtension ∧
          store.draftPath ≠ store.path ∧
          (store.prepare before).1.openFile store.path = .error .notFound ∧
          after.openFile store.path = .error .notADirectory))) := by
  intro before after document
  rcases (store.save_outcome host).2 with ⟨files, reports, final, outcome⟩
  have changed : after = files := congrArg Host.files final
  rw [failed] at outcome
  rw [changed]
  constructor
  · intro inPlace
    exact outcome.draftInPlace inPlace
  · intro elsewhere
    have kept := outcome.not_draftInPlace elsewhere
    refine ⟨?_, ?_, kept⟩
    · intro entry opened
      have prepared := openFile_prepare_of_ok opened
      apply sameDocument_of_openFile
      rcases kept with same | ⟨-, -, missing, -⟩
      · exact same.trans (prepared.trans opened.symm)
      · cases prepared.symm.trans missing
    · intro grounded plain atPath
      apply sameDocument_of_openFile
      rcases kept with same | ⟨extension, other, -, -⟩
      · exact same.trans (openFile_prepare grounded plain)
      · exact absurd (atPath extension) other

/-- A store with one sample, taken before the start of 1970. -/
def undatable (path : Path) : FileStore :=
  ⟨path, none, KeyMap.empty.insert "web"
    ⟨⟨0⟩, ⟨⟨-1⟩, ⟨7, 0, 0, [], 0, 1, 0, 0, 0, 0, 1⟩⟩⟩⟩

/-- A host with a document under a name in its root. -/
def hostWith (name : String) (document : List UInt8) : Host :=
  .fresh ((FileTree.empty []).setEntry [name] (some (.file document)))
    fun _ => ⟨0⟩

/-- With the name `s.tmp` an empty document is lost, with the name `s.json` it
stays. -/
theorem failed_save_at_two_names :
    let blank := Text.toBytes "\x7b\x7d"
    let lost := (undatable ⟨"s.tmp"⟩).save.runOn (hostWith "s.tmp" blank)
    let kept := (undatable ⟨"s.json"⟩).save.runOn (hostWith "s.json" blank)
    lost.1.2 = .error .encode ∧ kept.1.2 = .error .encode ∧
      (∃ bytes, lost.2.files.openFile ⟨"s.tmp"⟩ = .ok (.file bytes) ∧
        bytes ≠ blank) ∧
      kept.2.files.openFile ⟨"s.json"⟩ = .ok (.file blank) := by
  intro blank lost kept
  have lostFailed : lost.1.2 = .error .encode := by decide +kernel
  have keptFailed : kept.1.2 = .error .encode := by decide +kernel
  refine ⟨lostFailed, keptFailed, ?_, ?_⟩
  · have whole :=
      failed_save_keeps_document_unless_draft_in_place (undatable ⟨"s.tmp"⟩)
        (hostWith "s.tmp" blank) .encode lostFailed
    have inPlace : (undatable ⟨"s.tmp"⟩).DraftInPlace .encode :=
      ⟨by decide +kernel, rfl⟩
    exact ⟨_, (whole.1 inPlace).2.2, by decide +kernel⟩
  · have whole :=
      failed_save_keeps_document_unless_draft_in_place (undatable ⟨"s.json"⟩)
        (hostWith "s.json" blank) .encode keptFailed
    have elsewhere : ¬ (undatable ⟨"s.json"⟩).DraftInPlace .encode := by
      intro inPlace
      exact absurd inPlace.1 (by decide +kernel)
    have opened :
        (hostWith "s.json" blank).files.openFile ⟨"s.json"⟩ =
          .ok (.file blank) := by
      decide +kernel
    exact ((whole.2 elsewhere).1 _ opened).opened.trans opened

end CgroupMeter.FileStore
