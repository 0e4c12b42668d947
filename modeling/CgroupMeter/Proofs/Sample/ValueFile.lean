import CgroupMeter.Proofs.Sample.Reports
import CgroupMeter.Proofs.Stat.SingleValue

/-!
# How files of one value are classified

A file of one value in a group is read as what its first line stands for.  It
is not found when its controller has no directory or when nothing is at its
path, and never for its content.  So an optional file that is not found is a
detail, and one that fails in any other way is worth a warning.
-/

namespace CgroupMeter

/-! ## Kinds of failure -/

/-- The kinds of failure of reading a file. -/
inductive FailureKind where
  /-- Something that is needed does not exist. -/
  | notFound
  /-- What is read is not of the form that it should have. -/
  | invalidData
  /-- The operating system refuses for another cause. -/
  | refused (cause : OsError)
  deriving DecidableEq

/-- The kind of a refusal by the operating system. -/
def FailureKind.ofCause : OsError → FailureKind
  | .notFound => .notFound
  | cause => .refused cause

theorem FailureKind.ofCause_eq_notFound_iff {cause : OsError} :
    ofCause cause = .notFound ↔ cause = .notFound := by
  cases cause <;> simp [ofCause]

/-- The kind of the failure of a stat file. -/
def StatFileError.kind : StatFileError → FailureKind
  | .unresolved _ => .notFound
  | .openFile error => .ofCause error.cause
  | .content (.read .notUtf8) => .invalidData
  | .content (.read (.refused cause)) => .ofCause cause
  | .content (.parse _) => .invalidData

/-- No content makes a file one that is not found. -/
theorem StatFileError.kind_content_ne_notFound {entry : Entry}
    {error : ContentError}
    (refused : SingleValue.read (Lines.ofEntry entry) = .error error) :
    (StatFileError.content error).kind ≠ .notFound := by
  cases entry with
  | directory =>
      cases SingleValue.read_directory.symm.trans refused
      decide
  | file bytes =>
      rw [Lines.ofEntry, SingleValue.read_ofBytes] at refused
      split at refused
      · rcases mapError_eq_error_iff.1 refused with ⟨cause, -, rfl⟩
        simp [kind]
      · cases refused
        decide

/-! ## Files -/

namespace GroupLocations

variable (locations : GroupLocations) (tree : FileTree)
    (controller file : String)

/-- A file of a group has a first line that is text. -/
def HoldsLine (line : String) : Prop :=
  ∃ path bytes, locations.statFile controller file = .ok path ∧
    tree.openFile path = .ok (.file bytes) ∧
    Text.ofBytes (Text.takeLine Text.newline bytes).1 = some line

/-- A file of a group does not exist: its controller has no directory, or the
operating system says that there is no such file in it. -/
def Absent : Prop :=
  (∃ error, locations.directory controller = .error error) ∨
    ∃ directory, locations.directory controller = .ok directory ∧
      tree.openFile (directory.join ⟨file⟩) = .error .notFound

variable {locations tree controller file}

theorem found_readValue_of_unplaced {error : LocationError}
    (unknown : locations.directory controller = .error error) :
    (locations.readValue controller file).found tree =
      .error (.unresolved error) := by
  simp [readValue, parseFile, statFile, unknown, Except.map]

theorem found_readValue_of_unopened {path : Path} {cause : OsError}
    (placed : locations.statFile controller file = .ok path)
    (refused : tree.openFile path = .error cause) :
    (locations.readValue controller file).found tree =
      .error (.openFile ⟨path, cause⟩) := by
  have lines : tree.linesAt path = .error ⟨path, cause⟩ := by
    simp [FileTree.linesAt, refused, Except.mapError, Except.map]
  simp [readValue, parseFile, placed, Inquiry.parseFile, lines]

theorem found_readValue_of_opened {path : Path} {entry : Entry}
    (placed : locations.statFile controller file = .ok path)
    (opened : tree.openFile path = .ok entry) :
    (locations.readValue controller file).found tree =
      (SingleValue.read (Lines.ofEntry entry)).mapError .content := by
  have lines : tree.linesAt path = .ok (Lines.ofEntry entry) := by
    simp [FileTree.linesAt, opened, Except.mapError, Except.map]
  simp [readValue, parseFile, placed, Inquiry.parseFile, lines]

theorem HoldsLine.found_readValue {line : String}
    (holds : locations.HoldsLine tree controller file line) :
    (locations.readValue controller file).found tree =
      (SingleValue.ofText (Text.trim line)).mapError fun error =>
        .content (.parse error) := by
  rcases holds with ⟨path, bytes, placed, opened, read⟩
  have content : SingleValue.read (Lines.ofEntry (.file bytes)) =
      (SingleValue.ofText (Text.trim line)).mapError .parse := by
    rw [Lines.ofEntry, SingleValue.read_ofBytes, read]
  rw [found_readValue_of_opened placed opened, content]
  cases SingleValue.ofText (Text.trim line) <;> rfl

theorem statFile_of_directory {directory : Path}
    (placed : locations.directory controller = .ok directory) :
    locations.statFile controller file = .ok (directory.join ⟨file⟩) := by
  rw [statFile, placed]
  rfl

theorem absent_iff_of_placed {directory : Path}
    (placed : locations.directory controller = .ok directory) :
    locations.Absent tree controller file ↔
      tree.openFile (directory.join ⟨file⟩) = .error .notFound := by
  simp [Absent, placed]

theorem Absent.exists_error
    (absent : locations.Absent tree controller file) :
    ∃ error, (locations.readValue controller file).found tree =
      .error error := by
  rcases absent with ⟨error, unknown⟩ | ⟨directory, placed, missing⟩
  · exact ⟨_, found_readValue_of_unplaced unknown⟩
  · exact ⟨_, found_readValue_of_unopened (statFile_of_directory placed)
      missing⟩

/-- The kind of an error, and what the error says of itself, is that a file was
not found exactly when the file does not exist. -/
theorem notFound_iff_absent {error : StatFileError}
    (failed : (locations.readValue controller file).found tree =
      .error error) :
    (error.kind = .notFound ↔ locations.Absent tree controller file) ∧
      (error.isNotFound = true ↔
        locations.Absent tree controller file) := by
  cases known : locations.directory controller with
  | error unknown =>
      have absent : locations.Absent tree controller file :=
        Or.inl ⟨unknown, known⟩
      rw [found_readValue_of_unplaced known] at failed
      cases failed
      exact ⟨iff_of_true rfl absent, iff_of_true rfl absent⟩
  | ok directory =>
      have placed := @statFile_of_directory _ _ file _ known
      rw [absent_iff_of_placed known]
      cases opened : tree.openFile (directory.join ⟨file⟩) with
      | error cause =>
          rw [found_readValue_of_unopened placed opened] at failed
          cases failed
          simp [StatFileError.kind, FailureKind.ofCause_eq_notFound_iff,
            StatFileError.isNotFound, OpenError.isNotFound]
      | ok entry =>
          rw [found_readValue_of_opened placed opened] at failed
          rcases mapError_eq_error_iff.1 failed with ⟨content, refused, rfl⟩
          -- The file was opened, so it exists, whatever its content is.
          have other := StatFileError.kind_content_ne_notFound refused
          simp [other, StatFileError.isNotFound]

end GroupLocations

/-! ## Classification -/

/-- A reading is refused for invalid data, and the error names the text. -/
def RefusedFor (text : String) (result : Except StatFileError Counter) : Prop :=
  ∃ error cause, result = .error error ∧ error.kind = .invalidData ∧
    error = .content (.parse (.invalidValue text 1 cause))

/-- A reading gives the number that a text stands for, and is refused for the
text when it stands for none, as the empty text and too large numbers do. -/
structure ReadsAs (text : String) (result : Except StatFileError Counter) :
    Prop where
  value : ∀ value, result = .ok value ↔
    SingleValue.StandsFor text value.toNat
  refused : RefusedFor text result ↔
    ∀ number, ¬ SingleValue.StandsFor text number
  unfit : (text = "" ∨
      ∃ large, Numeral.Denotes text large ∧ 2 ^ 64 ≤ large) →
    RefusedFor text result

/-- The reports on a reading of an optional file: a detail when the file is
absent, a warning for any other failure, and nothing else. -/
structure ReportsOn (context : String) (absent : Prop)
    (result : Except StatFileError Counter) (reports : List Report) :
    Prop where
  detail : reports = [⟨.debug, s!"{context} not present"⟩] ↔ absent
  warning : ∀ error, result = .error error →
    (reports = [⟨.warn, s!"{context}: {error.message}"⟩] ↔ ¬ absent)
  silence : reports = [] ↔ ∃ value, result = .ok value

theorem refusedFor_iff {text : String} :
    RefusedFor text ((SingleValue.ofText text).mapError fun error =>
        .content (.parse error)) ↔
      ∀ number, ¬ SingleValue.StandsFor text number := by
  rw [← SingleValue.exists_ofText_eq_error_iff]
  simp only [RefusedFor, mapError_eq_error_iff]
  constructor
  · rintro ⟨_, cause, ⟨_, refused, rfl⟩, -, ⟨⟩⟩
    exact ⟨cause, refused⟩
  · rintro ⟨cause, refused⟩
    exact ⟨_, cause, ⟨_, refused, rfl⟩, rfl, rfl⟩

theorem ReadsAs.of_holdsLine {locations : GroupLocations} {tree : FileTree}
    {controller file line : String}
    (holds : locations.HoldsLine tree controller file line) :
    ReadsAs (Text.trim line)
      ((locations.readValue controller file).found tree) := by
  rw [holds.found_readValue]
  refine ⟨fun value => ?_, refusedFor_iff, fun unfit =>
    refusedFor_iff.2 (SingleValue.not_standsFor_of_unfit unfit)⟩
  rw [mapError_eq_ok_iff, SingleValue.ofText_eq_ok_iff]

theorem ReportsOn.of_optionalValue (id : ContainerId)
    (locations : GroupLocations) (tree : FileTree)
    (controller file : String) :
    ReportsOn s!"container `{id.text}`: {file}"
      (locations.Absent tree controller file)
      ((locations.readValue controller file).found tree)
      ((PartReader.optionalValue ⟨id, locations⟩ controller file).reports
        tree) := by
  rw [PartReader.reports_optionalValue_eq]
  cases read : (locations.readValue controller file).found tree with
  | ok value =>
      have present : ¬ locations.Absent tree controller file := by
        intro absent
        rcases absent.exists_error with ⟨error, failed⟩
        cases read.symm.trans failed
      exact ⟨by simp [present], by simp, by simp⟩
  | error error =>
      have told := (GroupLocations.notFound_iff_absent read).2
      by_cases missing : error.isNotFound = true
      · have absent := told.1 missing
        exact ⟨by simp [missing, absent, PartReader.context],
          by simp [missing, absent], by simp [missing]⟩
      · have present := mt told.2 missing
        refine ⟨by simp [missing, present], ?_, by simp [missing]⟩
        rintro _ ⟨⟩
        simp [missing, present, PartReader.context]

namespace GroupLocations

/-- A file of one value whose first line is text is read as what this line says
without the blanks at its ends, and any other file with such a line is read in
the same way.  A file fails as not found exactly when it does not exist, and
this is what makes the report on an optional file a detail. -/
theorem value_files_are_classified (locations : GroupLocations)
    (tree : FileTree) (controller file : String) :
    (∀ line, locations.HoldsLine tree controller file line →
      ReadsAs (Text.trim line)
          ((locations.readValue controller file).found tree) ∧
        ∀ (others : GroupLocations) otherTree otherController otherFile
          otherLine,
          others.HoldsLine otherTree otherController otherFile otherLine →
          Text.trim otherLine = Text.trim line →
          (others.readValue otherController otherFile).found otherTree =
            (locations.readValue controller file).found tree) ∧
      ((∃ error, (locations.readValue controller file).found tree =
          .error error ∧ error.kind = .notFound) ↔
        locations.Absent tree controller file) ∧
      (∀ error, (locations.readValue controller file).found tree =
          .error error →
        (error.isNotFound = true ↔ error.kind = .notFound)) ∧
      ∀ id : ContainerId,
        ReportsOn s!"container `{id.text}`: {file}"
          (locations.Absent tree controller file)
          ((locations.readValue controller file).found tree)
          ((PartReader.optionalValue ⟨id, locations⟩ controller file).reports
            tree) := by
  refine ⟨fun line holds => ⟨.of_holdsLine holds, ?_⟩, ?_, ?_,
    fun id => .of_optionalValue id locations tree controller file⟩
  · intro others otherTree otherController otherFile otherLine otherHolds same
    rw [holds.found_readValue, otherHolds.found_readValue, same]
  · constructor
    · rintro ⟨error, failed, kind⟩
      exact (notFound_iff_absent failed).1.1 kind
    · intro absent
      rcases absent.exists_error with ⟨error, failed⟩
      exact ⟨error, failed, (notFound_iff_absent failed).1.2 absent⟩
  · intro error failed
    rcases notFound_iff_absent failed with ⟨kind, told⟩
    rw [kind, told]

/-- A host with three files of one value: two with a sign, zeros and blanks, of
which one goes on behind its first line with what is no text, and a
directory. -/
def valueHost : FileTree :=
  RawSample.hostTree "" ""
    [(["c"], .directory), (["cpu", "c"], .directory),
      (["pids.max", "c"], .file (Text.toBytes " +007\r\n" ++ [0xFF])),
      (["cpu.shares", "cpu", "c"], .file (Text.toBytes "+007")),
      (["memory.max", "c"], .directory)]

/-- The locations of a process in the hierarchy of the controller `cpu`. -/
def cpuAlone : GroupLocations :=
  .perController (KeyMap.ofList [("cpu", ⟨"/c"⟩)])
    (KeyMap.ofList [("cpu", "/")])

theorem values_on_valueHost :
    ((unified ⟨"/c"⟩).readValue "pids" "pids.max").found valueHost = .ok 7 ∧
      (cpuAlone.readValue "cpu" "cpu.shares").found valueHost = .ok 7 ∧
      (PartReader.optionalValue ⟨⟨"job", by decide⟩, unified ⟨"/c"⟩⟩ "memory"
          "memory.swap.max").reports valueHost =
        [⟨.debug, "container `job`: memory.swap.max not present"⟩] ∧
      (PartReader.optionalValue ⟨⟨"job", by decide⟩, unified ⟨"/c"⟩⟩ "memory"
          "memory.max").reports valueHost =
        [⟨.warn, "container `job`: memory.max: Is a directory (os error 21)"⟩] := by
  have holds : (unified ⟨"/c"⟩).HoldsLine valueHost "pids" "pids.max"
      " +007\r" :=
    ⟨⟨"/c/pids.max"⟩, _, by decide +kernel, by rfl, by decide +kernel⟩
  have othersHold : cpuAlone.HoldsLine valueHost "cpu" "cpu.shares" "+007" :=
    ⟨⟨"/c/cpu/cpu.shares"⟩, _, by decide +kernel, by rfl, by decide +kernel⟩
  have trimmed : Text.trim "+007" = Text.trim " +007\r" := by decide +kernel
  rcases value_files_are_classified (unified ⟨"/c"⟩) valueHost "pids"
    "pids.max" with ⟨reads, -, -⟩
  rcases value_files_are_classified (unified ⟨"/c"⟩) valueHost "memory"
    "memory.swap.max" with ⟨-, -, -, noted⟩
  rcases value_files_are_classified (unified ⟨"/c"⟩) valueHost "memory"
    "memory.max" with ⟨-, kinds, -, warned⟩
  rcases reads _ holds with ⟨asText, alike⟩
  have seven : ((unified ⟨"/c"⟩).readValue "pids" "pids.max").found valueHost =
      .ok 7 := by
    refine (asText.value 7).2 (.number ?_ (by decide))
    exact Numeral.readUInt64_eq_ok_iff.1 (by decide +kernel)
  have failed : ((unified ⟨"/c"⟩).readValue "memory" "memory.max").found
      valueHost = .error (.content (.read (.refused .isADirectory))) := by
    decide +kernel
  refine ⟨seven, ?_, ?_, ?_⟩
  · rw [alike _ _ _ _ _ othersHold trimmed, seven]
  · exact (noted _).detail.2 (Or.inr ⟨⟨"/c"⟩, rfl, by decide +kernel⟩)
  · refine ((warned _).warning _ failed).2 fun absent => ?_
    rcases kinds.2 absent with ⟨error, again, kind⟩
    cases failed.symm.trans again
    exact absurd kind (by decide)

end GroupLocations

end CgroupMeter
