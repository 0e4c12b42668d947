import CgroupMeter.Host.Task

/-!
# What single actions do to a host

Running a task is a matter of its actions one after another.  Each action
changes one part of the host, and a report only the list of reports.
-/

namespace CgroupMeter.Task

variable {α β : Type}

@[simp]
theorem runOn_map (transform : α → β) (task : Task α) (host : Host) :
    (transform <$> task).runOn host =
      (transform (task.runOn host).1, (task.runOn host).2) := by
  rw [map_eq_pure_bind, runOn_bind, runOn_pure]

@[simp]
theorem runOn_readClock (host : Host) :
    readClock.runOn host =
      (host.clock host.readings,
        { host with readings := host.readings + 1 }) :=
  runOn_ask .readClock host

@[simp]
theorem runOn_report (level : Level) (text : String) (host : Host) :
    (report level text).runOn host =
      ((), { host with reports := host.reports ++ [⟨level, text⟩] }) := by
  rw [report, runOn_ofInquiry]
  rfl

@[simp]
theorem runOn_makeDirectories (path : Path) (host : Host) :
    (makeDirectories path).runOn host =
      ((host.files.makeDirectories path).2,
        { host with files := (host.files.makeDirectories path).1 }) :=
  runOn_ask (.makeDirectories path) host

theorem runOn_writeFile (path : Path) (bytes : List UInt8) (host : Host) :
    (writeFile path bytes).runOn host =
      host.change (host.files.writeFile path bytes) :=
  runOn_ask (.writeFile path bytes) host

theorem runOn_rename (source target : Path) (host : Host) :
    (rename source target).runOn host =
      host.change (host.files.renameFile source target) :=
  runOn_ask (.rename source target) host

@[simp]
theorem runOn_emit (bytes : List UInt8) (host : Host) :
    (emit bytes).runOn host =
      (.ok (), { host with output := host.output ++ bytes }) :=
  runOn_ask (.emit bytes) host

/-- Reports one after another are all kept in their order. -/
@[simp]
theorem runOn_forM_report {Item : Type} (level : Level) (text : Item → String)
    (items : List Item) (host : Host) :
    (forM items fun item => report level (text item)).runOn host =
      ((), { host with
        reports := host.reports ++ items.map fun item => ⟨level, text item⟩ }) := by
  induction items generalizing host with
  | nil => simp
  | cons item items ih => simp [ih]

end CgroupMeter.Task
