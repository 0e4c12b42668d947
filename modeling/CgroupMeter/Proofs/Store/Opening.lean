import CgroupMeter.Proofs.Host.Reading
import CgroupMeter.Proofs.Host.Walk
import CgroupMeter.Store.File

/-!
# What opening a store yields

Opening a store changes nothing on the host but its reports.  A missing file is
an empty store, and so is one with content that is no document, with a warning.
A failure to open the file is one of the store.

A failure to read what was opened is none.  A directory can be opened, and what
fails is reading it, inside the decoder, which takes it for content that is no
document.  On a tree of files, where everything can be opened, no store that is
there is refused: an error only tells of paths at which nothing can be found.
-/

namespace CgroupMeter

namespace FileTree

/-! ## Paths that cannot be opened -/

/-- What keeps a path in a tree from being opened. -/
def refusals : List OsError :=
  [.notFound, .notADirectory, .nameTooLong, .nulInPath]

variable {tree : FileTree} {path : Path} {cause : OsError}

theorem mem_refusals_of_checkText (refused : checkText path = .error cause) :
    cause ∈ refusals := by
  unfold checkText at refused
  split_ifs at refused <;> cases refused <;> decide

theorem mem_refusals_of_follow {location : Location} {segment : String}
    (refused : tree.follow location segment = .error cause) :
    cause ∈ refusals := by
  unfold follow at refused
  split at refused
  · cases refused
    decide
  · cases refused
    decide
  · split_ifs at refused <;> cases refused <;> decide

theorem mem_refusals_of_walk {location : Location} {segments : List String}
    (refused : tree.walk location segments = .error cause) :
    cause ∈ refusals := by
  induction segments generalizing location with
  | nil => cases refused
  | cons segment rest ih =>
      rw [walk_cons] at refused
      cases followed : tree.follow location segment with
      | error found =>
          rw [followed] at refused
          cases refused
          exact mem_refusals_of_follow followed
      | ok next =>
          rw [followed] at refused
          exact ih refused

theorem mem_refusals_of_openFile
    (refused : tree.openFile path = .error cause) : cause ∈ refusals := by
  rw [openFile, resolve_eq] at refused
  cases text : checkText path with
  | error found =>
      rw [text] at refused
      cases refused
      exact mem_refusals_of_checkText text
  | ok accepted =>
      cases walked : tree.walk (tree.start path) path.segments with
      | error found =>
          simp only [text, walked, Except.bind, bind] at refused
          cases refused
          exact mem_refusals_of_walk walked
      | ok place =>
          simp only [text, walked, Except.bind, bind] at refused
          cases found : tree.entry place with
          | none =>
              rw [found] at refused
              cases refused
              decide
          | some entry =>
              rw [found] at refused
              cases refused

end FileTree

namespace FileStore

/-- How a store is opened, by what opening its file yields: the result, and the
levels of the reports that are made. -/
inductive Opening (path : Path) (lifetime : Option Duration) :
    Except OsError Entry → Except StoreError FileStore → List Level → Prop where
  | missing :
      Opening path lifetime (.error .notFound)
        (.ok ⟨path, lifetime, KeyMap.empty⟩) [.debug, .debug]
  | refused {cause : OsError} (there : cause ≠ .notFound) :
      Opening path lifetime (.error cause) (.error (.read path cause)) []
  | decoded {bytes : List UInt8} {entries : StoreEntries}
      (document : StoreEntries.parse? bytes = some entries) :
      Opening path lifetime (.ok (.file bytes)) (.ok ⟨path, lifetime, entries⟩)
        [.debug]
  | discarded {bytes : List UInt8}
      (garbled : StoreEntries.parse? bytes = none) :
      Opening path lifetime (.ok (.file bytes))
        (.ok ⟨path, lifetime, KeyMap.empty⟩) [.warn, .debug]
  /-- A directory cannot be read, and is opened all the same. -/
  | hidden :
      Opening path lifetime (.ok .directory)
        (.ok ⟨path, lifetime, KeyMap.empty⟩) [.warn, .debug]

/-- Whatever opening the file yields, the store is opened accordingly. -/
theorem opening_of_view (path : Path) (lifetime : Option Duration)
    (view : (query : Query) → query.Answer) :
    Opening path lifetime (view (.openFile path))
      (Program.eval view (openAt path lifetime))
      (((Program.trace view (openAt path lifetime)).filterMap
        Query.report?).map Report.level) := by
  simp only [openAt, openEntries, Inquiry.openFile, Inquiry.ask, Inquiry.report,
    Program.eval_bind, Program.trace_bind, Program.eval_request,
    Program.trace_request, Program.eval_pure, Program.trace_pure]
  cases opened : view (.openFile path) with
  | error cause =>
      by_cases missing : cause = .notFound
      · subst missing
        exact .missing
      · simp only [Except.mapError, OpenError.isNotFound, beq_iff_eq, missing]
        exact .refused missing
  | ok entry =>
      cases entry with
      | directory => exact .hidden
      | file bytes =>
          cases parsed : StoreEntries.parse? bytes with
          | none =>
              simp only [Except.mapError, readEntries, parsed]
              exact .discarded parsed
          | some entries =>
              simp only [Except.mapError, readEntries, parsed]
              exact .decoded parsed

theorem Opening.eq_error_iff {path : Path} {lifetime : Option Duration}
    {opened : Except OsError Entry} {result : Except StoreError FileStore}
    {levels : List Level}
    (opening : Opening path lifetime opened result levels)
    {error : StoreError} :
    result = .error error ↔
      ∃ cause, cause ≠ .notFound ∧ opened = .error cause ∧
        error = .read path cause := by
  cases opening with
  | refused there => simp [there, eq_comm]
  | _ => simp

/-- Opening a store leaves everything on a host as it is but the reports, and
is settled by what opening its file yields, whatever that is.  A file tree
refuses no store that is there, readable or not. -/
theorem store_is_opened_by_its_file (path : Path)
    (lifetime : Option Duration) :
    (∀ view : (query : Query) → query.Answer,
      Opening path lifetime (view (.openFile path))
        (Program.eval view (openAt path lifetime))
        (((Program.trace view (openAt path lifetime)).filterMap
          Query.report?).map Report.level)) ∧
      ∀ host : Host,
        let run := (Task.ofInquiry (openAt path lifetime)).runOn host
        ∃ made, run.2 = { host with reports := host.reports ++ made } ∧
          Opening path lifetime (host.files.openFile path) run.1
            (made.map Report.level) ∧
          ∀ error, run.1 = .error error ↔
            ∃ cause ∈ FileTree.refusals, cause ≠ .notFound ∧
              host.files.openFile path = .error cause ∧
              error = .read path cause := by
  refine ⟨opening_of_view path lifetime, ?_⟩
  intro host run
  have opening : Opening path lifetime (host.files.openFile path)
      ((openAt path lifetime).found host.files)
      (((openAt path lifetime).reports host.files).map Report.level) :=
    opening_of_view path lifetime host.files.view
  have ran : run = ((openAt path lifetime).found host.files,
      { host with
        reports := host.reports ++
          (openAt path lifetime).reports host.files }) :=
    Task.runOn_ofInquiry _ host
  refine ⟨(openAt path lifetime).reports host.files, by rw [ran], ?_, ?_⟩
  · rw [ran]
    exact opening
  · intro error
    rw [ran, opening.eq_error_iff]
    constructor
    · rintro ⟨cause, there, refused, named⟩
      exact ⟨cause, FileTree.mem_refusals_of_openFile refused, there, refused,
        named⟩
    · rintro ⟨cause, -, there, refused, named⟩
      exact ⟨cause, there, refused, named⟩

/-- A host with a directory and an empty file. -/
def shelfHost : Host :=
  .fresh
    (((FileTree.empty []).setEntry ["d"] (some .directory)).setEntry
      ["f"] (some (.file [])))
    fun _ => ⟨0⟩

/-- The directory, which cannot be read, is an empty store.  Below the file,
where nothing can be found, the store cannot be read. -/
theorem opening_on_shelfHost :
    ((Task.ofInquiry (openAt ⟨"d"⟩ none)).runOn shelfHost).1 =
        .ok ⟨⟨"d"⟩, none, KeyMap.empty⟩ ∧
      ((Task.ofInquiry (openAt ⟨"f/x"⟩ none)).runOn shelfHost).1 =
        .error (.read ⟨"f/x"⟩ .notADirectory) := by
  rcases (store_is_opened_by_its_file ⟨"d"⟩ none).2 shelfHost with
    ⟨made, -, opening, -⟩
  rcases (store_is_opened_by_its_file ⟨"f/x"⟩ none).2 shelfHost with
    ⟨-, -, -, refused⟩
  have directory : shelfHost.files.openFile ⟨"d"⟩ = .ok .directory := by
    decide +kernel
  refine ⟨?_, (refused _).2
    ⟨.notADirectory, by decide, nofun, by decide +kernel, rfl⟩⟩
  rw [directory] at opening
  generalize ((Task.ofInquiry (openAt ⟨"d"⟩ none)).runOn shelfHost).1 = result,
    made.map Report.level = levels at opening ⊢
  cases opening
  rfl

end FileStore

end CgroupMeter
