import CgroupMeter.Proofs.Sample.Accounts

/-!
# What is worth a report

A file that tells nothing leaves zeros in a sample, which look like counters
that are zero.  What makes the difference are the reports.  This module says
why a file tells nothing and which report that is worth: a warning where the
sample needs the file, and a detail where the file may be absent or is only a
fallback.
-/

namespace CgroupMeter

/-- A report is a warning. -/
def Report.isWarning (made : Report) : Bool :=
  made.level == .warn

/-- How much a sample depends on a file. -/
inductive Need where
  /-- The file has to tell something. -/
  | required
  /-- The kernel only provides the file when a feature is in use. -/
  | optional
  /-- Something else can stand in for what the file tells. -/
  | fallback
  deriving DecidableEq

/-- Why an accounting file tells nothing. -/
inductive AccountFault where
  /-- The controller has no directory. -/
  | unplaced (error : LocationError)
  /-- The file cannot be opened. -/
  | unopened (error : OpenError)
  /-- The content cannot be used, as is said in words. -/
  | unusable (message : String)

namespace AccountFault

/-- The wording of a fault. -/
def message : AccountFault → String
  | .unplaced error => error.message
  | .unopened error => error.message
  | .unusable message => message

/-- The file does not exist, as far as can be told. -/
def isNotFound : AccountFault → Bool
  | .unplaced _ => true
  | .unopened error => error.isNotFound
  | .unusable _ => false

/-- The error of reading a file of a group, as a fault. -/
def ofError : StatFileError → AccountFault
  | .unresolved error => .unplaced error
  | .openFile error => .unopened error
  | .content error => .unusable error.message

@[simp]
theorem message_ofError (error : StatFileError) :
    (ofError error).message = error.message := by
  cases error <;> rfl

@[simp]
theorem isNotFound_ofError (error : StatFileError) :
    (ofError error).isNotFound = error.isNotFound := by
  cases error <;> rfl

/-- The fault of a file of a group that gives a result. -/
def ofResult? {α : Type} : Except StatFileError α → Option AccountFault
  | .ok _ => none
  | .error error => some (ofError error)

end AccountFault

/-- The wording of the error of a result, if it is one. -/
def refusalOf {ε α : Type} (message : ε → String) :
    Except ε α → Option String
  | .ok _ => none
  | .error error => some (message error)

theorem refusalOf_eq_none_iff {ε α : Type} {message : ε → String}
    {result : Except ε α} :
    refusalOf message result = none ↔ result.toOption.isSome := by
  cases result <;> simp [refusalOf, Except.toOption]

namespace AccountFile

variable {layout : GroupLayout}

/-- How much a sample depends on each file. -/
def need : {layout : GroupLayout} → AccountFile layout → Need
  | _, .cpuset => .fallback
  | _, .memoryAndSwapUsage => .optional
  | _, .memoryAndSwapLimit => .optional
  | _, .swapCurrent => .optional
  | _, .swapMax => .optional
  | _, .memoryLow => .optional
  | _, _ => .required

/-- What is wrong with the lines of a file, if anything is. -/
def refusal? (root : Path) (file : AccountFile layout) (lines : Lines) :
    Option String :=
  refusalOf file.reader.message (file.reader.read root lines)

/-- The lines of a file are refused exactly when they tell nothing. -/
theorem refusal?_eq_none_iff (root : Path) (file : AccountFile layout)
    (lines : Lines) :
    file.refusal? root lines = none ↔ (file.parse root lines).isSome :=
  refusalOf_eq_none_iff

section Reading

variable (root : Path) (locations : GroupLocations) (tree : FileTree)

/-- Where a file is, or why that is not known. -/
def place (file : AccountFile layout) : Except LocationError Path :=
  match file.inGroup with
  | none => .ok (HostCpuUsage.path root)
  | some (controller, name) => locations.statFile controller name

theorem toOption_place (file : AccountFile layout) :
    (file.place root locations).toOption = file.path? root locations := by
  unfold place path?
  cases file.inGroup <;> rfl

/-- Why a file tells nothing, if that is so. -/
def fault? (file : AccountFile layout) : Option AccountFault :=
  match file.place root locations with
  | .error error => some (.unplaced error)
  | .ok path =>
      match tree.linesAt path with
      | .error error => some (.unopened error)
      | .ok lines => (file.refusal? root lines).map .unusable

/-- A file has a fault exactly when it tells nothing. -/
theorem fault?_eq_none_iff (file : AccountFile layout) :
    file.fault? root locations tree = none ↔
      (file.told? root locations tree).isSome := by
  unfold fault? told?
  rw [← toOption_place]
  cases placed : file.place root locations with
  | error error => simp [Except.toOption]
  | ok path =>
      cases opened : tree.linesAt path with
      | error error => simp [Except.toOption, opened]
      | ok lines =>
          simp [Except.toOption, opened, refusal?_eq_none_iff]

/-- A file does not exist: its controller has no directory, or nothing is at
its path. -/
def Absent (file : AccountFile layout) : Prop :=
  ∀ path, file.path? root locations = some path →
    tree.openFile path = .error .notFound

/-- A fault says that a file was not found exactly when it does not exist. -/
theorem isNotFound_iff_absent {file : AccountFile layout}
    {fault : AccountFault}
    (faulty : file.fault? root locations tree = some fault) :
    fault.isNotFound = true ↔ file.Absent root locations tree := by
  unfold fault? at faulty
  unfold Absent
  rw [← toOption_place]
  cases placed : file.place root locations with
  | error error =>
      rw [placed] at faulty
      cases faulty
      simp [AccountFault.isNotFound, Except.toOption]
  | ok path =>
      rw [placed] at faulty
      cases opened : tree.openFile path with
      | error cause =>
          simp only [FileTree.linesAt, opened, Except.mapError, Except.map]
            at faulty
          cases faulty
          simp [AccountFault.isNotFound, OpenError.isNotFound,
            Except.toOption, opened]
      | ok entry =>
          simp only [FileTree.linesAt, opened, Except.mapError, Except.map,
            Option.map_eq_some_iff] at faulty
          rcases faulty with ⟨message, -, rfl⟩
          simp [AccountFault.isNotFound, Except.toOption, opened]

theorem told?_eq_none_of_absent {file : AccountFile layout}
    (absent : file.Absent root locations tree) :
    file.told? root locations tree = none := by
  unfold told?
  cases place : file.path? root locations with
  | none => rfl
  | some path =>
      simp [FileTree.linesAt, absent path place, Except.mapError, Except.map,
        Except.toOption]

end Reading

end AccountFile

/-- What is read at one time for a sample: a file by itself, or the two files
with the tasks of a group, of which one fault is reported. -/
inductive Reading (layout : GroupLayout) where
  | single (file : AccountFile layout)
  | tasks

namespace Reading

variable {layout : GroupLayout}

/-- What is read for the CPU counters. -/
def cpuOrder : (layout : GroupLayout) → List (Reading layout)
  | .perController =>
      [.single .cpuTicks, .single .throttling, .single .perCpuUsage,
        .single .hostCpu, .single .cpuset, .single .cpuUsage,
        .single .cpuShares]
  | .unified => [.single .unifiedCpuStat, .single .hostCpu, .single .cpuset]

/-- What is read for the memory counters. -/
def memoryOrder : (layout : GroupLayout) → List (Reading layout)
  | .perController =>
      [.single .memoryStat, .single .memoryLimit, .single .memoryAndSwapUsage,
        .single .memoryUsage, .single .kernelUsage,
        .single .memoryAndSwapLimit, .single .softLimit]
  | .unified =>
      [.single .unifiedMemoryStat, .single .memoryCurrent, .single .memoryMax,
        .single .swapCurrent, .single .swapMax, .single .memoryLow]

/-- What is read for the block I/O counts. -/
def blkioOrder : (layout : GroupLayout) → List (Reading layout)
  | .perController => [.single .serviceBytes, .single .serviced]
  | .unified => [.single .ioStat]

/-- What is read for a sample, in the order of reading. -/
def order (layout : GroupLayout) : List (Reading layout) :=
  cpuOrder layout ++ memoryOrder layout ++ [.tasks] ++ blkioOrder layout

/-- How much a sample depends on what is read. -/
def need : Reading layout → Need
  | .single file => file.need
  | .tasks => .required

variable (id : ContainerId) (root : Path) (locations : GroupLocations)
    (tree : FileTree)

/-- Why a reading tells nothing, if that is so: the second file of the tasks is
only read when the first one tells something. -/
def fault? : Reading layout → Option AccountFault
  | .single file => file.fault? root locations tree
  | .tasks =>
      ((AccountFile.pidsCurrent : AccountFile layout).fault? root locations
          tree).or
        ((AccountFile.pidsMax : AccountFile layout).fault? root locations tree)

/-- What a reading is called in reports, but for the CPU time of the host. -/
def name? : Reading layout → Option String
  | .single file => file.inGroup.map Prod.snd
  | .tasks => some "pids"

/-- What a report about a reading starts with. -/
def context (reading : Reading layout) : String :=
  match reading.name? with
  | none => s!"container `{id.text}`"
  | some name => s!"container `{id.text}`: {name}"

/-- The report that a fault is worth. -/
def reportOf (reading : Reading layout) (fault : AccountFault) : Report :=
  match reading.need with
  | .required => ⟨.warn, s!"{reading.context id}: {fault.message}"⟩
  | .optional =>
      if fault.isNotFound then ⟨.debug, s!"{reading.context id} not present"⟩
      else ⟨.warn, s!"{reading.context id}: {fault.message}"⟩
  | .fallback => ⟨.debug, s!"{reading.context id}: {fault.message}"⟩

/-- The report of a reading that tells nothing. -/
def report? (reading : Reading layout) : Option Report :=
  (reading.fault? root locations tree).map (reading.reportOf id)

/-- The warning of a reading that tells nothing, if it is worth one. -/
def warning? (reading : Reading layout) : Option Report :=
  (reading.report? id root locations tree).filter Report.isWarning

/-- A reading is worth a warning: one of the two files of the tasks tells
nothing, or a required file tells nothing, or an optional one does that
exists. -/
def Warned : Reading layout → Prop
  | .single file =>
      file.told? root locations tree = none ∧
        (file.need = .required ∨
          file.need = .optional ∧ ¬ file.Absent root locations tree)
  | .tasks =>
      (AccountFile.pidsCurrent : AccountFile layout).told? root locations
          tree = none ∨
        (AccountFile.pidsMax : AccountFile layout).told? root locations
          tree = none

/-- A reading is worth a detail: a fallback tells nothing, or an optional file
does not exist. -/
def Noted : Reading layout → Prop
  | .single file =>
      file.told? root locations tree = none ∧
        (file.need = .fallback ∨
          file.need = .optional ∧ file.Absent root locations tree)
  | .tasks => False

/-- Every file is read by itself or with the tasks. -/
theorem mem_order (file : AccountFile layout) :
    .single file ∈ order layout ∨
      .tasks ∈ order layout ∧ (file = .pidsCurrent ∨ file = .pidsMax) := by
  cases file
  case hostCpu | cpuset | pidsCurrent | pidsMax =>
    cases layout <;> simp [order, cpuOrder, memoryOrder, blkioOrder]
  all_goals simp [order, cpuOrder, memoryOrder, blkioOrder]

variable {id root locations tree}

theorem fault?_tasks_eq_none_iff :
    (tasks : Reading layout).fault? root locations tree = none ↔
      ¬ (tasks : Reading layout).Warned root locations tree := by
  simp only [fault?, Warned, Option.or_eq_none_iff,
    AccountFile.fault?_eq_none_iff, not_or, Option.isSome_iff_ne_none, ne_eq]

/-- What a reading reports: a warning if it is worth one, a detail if it is
worth that, and else nothing. -/
inductive Outcome (id : ContainerId) (root : Path) (locations : GroupLocations)
    (tree : FileTree) (reading : Reading layout) : Prop where
  | warned (text : String)
      (report : reading.report? id root locations tree = some ⟨.warn, text⟩)
      (worth : reading.Warned root locations tree)
      (unnoted : ¬ reading.Noted root locations tree)
  | noted (text : String)
      (report : reading.report? id root locations tree = some ⟨.debug, text⟩)
      (unwarned : ¬ reading.Warned root locations tree)
      (worth : reading.Noted root locations tree)
  | told (report : reading.report? id root locations tree = none)
      (unwarned : ¬ reading.Warned root locations tree)
      (unnoted : ¬ reading.Noted root locations tree)

theorem reportOf_required (reading : Reading layout)
    (required : reading.need = .required) (fault : AccountFault) :
    reading.reportOf id fault =
      ⟨.warn, s!"{reading.context id}: {fault.message}"⟩ := by
  simp [reportOf, required]

theorem reportOf_fallback (reading : Reading layout)
    (fallback : reading.need = .fallback) (fault : AccountFault) :
    reading.reportOf id fault =
      ⟨.debug, s!"{reading.context id}: {fault.message}"⟩ := by
  simp [reportOf, fallback]

theorem reportOf_optional (reading : Reading layout)
    (optional : reading.need = .optional) (fault : AccountFault) :
    reading.reportOf id fault =
      if fault.isNotFound then ⟨.debug, s!"{reading.context id} not present"⟩
      else ⟨.warn, s!"{reading.context id}: {fault.message}"⟩ := by
  simp [reportOf, optional]

theorem outcome_tasks :
    (tasks : Reading layout).Outcome id root locations tree := by
  cases fault : (tasks : Reading layout).fault? root locations tree with
  | none =>
      exact .told (by simp [report?, fault]) (fault?_tasks_eq_none_iff.1 fault)
        (fun noted => noted)
  | some cause =>
      have report : (tasks : Reading layout).report? id root locations tree =
          some ((tasks : Reading layout).reportOf id cause) := by
        simp [report?, fault]
      rw [reportOf_required tasks rfl] at report
      refine .warned _ report ?_ (fun noted => noted)
      by_contra unwarned
      rw [fault?_tasks_eq_none_iff.2 unwarned] at fault
      cases fault

theorem outcome_single (file : AccountFile layout) :
    (single file).Outcome id root locations tree := by
  cases fault : file.fault? root locations tree with
  | none =>
      have told := Option.isSome_iff_ne_none.1
        ((file.fault?_eq_none_iff root locations tree).1 fault)
      exact .told (by simp [report?, fault?, fault])
        (fun warned => told warned.1) (fun noted => told noted.1)
  | some cause =>
      have silent : file.told? root locations tree = none := by
        rw [← Option.not_isSome_iff_eq_none,
          ← file.fault?_eq_none_iff root locations tree, fault]
        exact Option.some_ne_none cause
      have found := file.isNotFound_iff_absent root locations tree fault
      have report : (single file).report? id root locations tree =
          some ((single file).reportOf id cause) := by
        simp [report?, fault?, fault]
      cases needed : file.need with
      | required =>
          rw [reportOf_required (single file) needed] at report
          exact .warned _ report ⟨silent, Or.inl needed⟩
            (by simp [Noted, needed])
      | fallback =>
          rw [reportOf_fallback (single file) needed] at report
          exact .noted _ report (by simp [Warned, needed])
            ⟨silent, Or.inl needed⟩
      | optional =>
          rw [reportOf_optional (single file) needed] at report
          by_cases missing : cause.isNotFound = true
          · have absent := found.1 missing
            rw [if_pos missing] at report
            exact .noted _ report (by simp [Warned, needed, absent])
              ⟨silent, Or.inr ⟨needed, absent⟩⟩
          · have present : ¬ file.Absent root locations tree :=
              fun absent => missing (found.2 absent)
            rw [if_neg missing] at report
            exact .warned _ report ⟨silent, Or.inr ⟨needed, present⟩⟩
              (by simp [Noted, needed, present])

theorem outcome (reading : Reading layout) :
    reading.Outcome id root locations tree := by
  cases reading with
  | single file => exact outcome_single file
  | tasks => exact outcome_tasks

/-- A reading has a warning exactly when it is worth one. -/
theorem isSome_warning?_iff (id : ContainerId) (reading : Reading layout) :
    (reading.warning? id root locations tree).isSome ↔
      reading.Warned root locations tree := by
  cases (reading.outcome : reading.Outcome id root locations tree) with
  | warned text report worth =>
      simp [warning?, report, Report.isWarning, worth]
  | noted text report unwarned =>
      simp [warning?, report, Report.isWarning, unwarned]
  | told report unwarned => simp [warning?, report, unwarned]

/-- A reading reports a detail exactly when it is worth that. -/
theorem report?_debug_iff (id : ContainerId) (reading : Reading layout) :
    (∃ text, reading.report? id root locations tree = some ⟨.debug, text⟩) ↔
      reading.Noted root locations tree := by
  cases (reading.outcome : reading.Outcome id root locations tree) with
  | warned text report worth unnoted => simp [report, unnoted]
  | noted text report unwarned worth => simp [report, worth]
  | told report unwarned unnoted => simp [report, unnoted]

end Reading

end CgroupMeter
