import CgroupMeter.Proofs.Host.Progress
import CgroupMeter.Sample.Fetch
import CgroupMeter.Store.File

/-!
# Quiet tasks

How a pass went is told by its reports of the levels INFO and ERROR.  What it
reads, and what it does with its store, makes reports of other levels only, so
that no such report comes from anywhere but the pass itself.

This is a matter of what the programs may ask, and is proved for each of them
from its parts.  Finding groups, reading network counters and opening files
report nothing but details, of the levels DEBUG and TRACE.
-/

namespace CgroupMeter

/-- A report tells how a pass went. -/
def Report.isLoud (made : Report) : Bool :=
  made.level == .info || made.level == .error

/-- A query makes no loud report. -/
def Query.IsQuiet : Query → Prop
  | .report made => made.isLoud = false
  | _ => True

/-- A report tells a detail, which is worth no warning. -/
def Report.isDetail (made : Report) : Bool :=
  made.level == .debug || made.level == .trace

/-- A query makes no report but of details. -/
def Query.IsDetail : Query → Prop
  | .report made => made.isDetail = true
  | _ => True

/-- An action makes no loud report. -/
def Action.IsQuiet : Action → Prop
  | .inquire query => query.IsQuiet
  | _ => True

/-- An action reads files or the clock. -/
def Action.IsReading : Action → Prop
  | .inquire _ => True
  | .readClock => True
  | _ => False

/-! ## What is left alone -/

namespace Task

variable {α : Type}

/-- A quiet task adds no loud report. -/
theorem loud_runOn {task : Task α} (quiet : task.Only Action.IsQuiet)
    (host : Host) :
    (task.runOn host).2.reports.filter Report.isLoud =
      host.reports.filter Report.isLoud := by
  induction task generalizing host with
  | done value => rfl
  | ask action next ih =>
      have asked : runOn (Program.ask action next) host =
          runOn (next (Host.answer action host).1)
            (Host.answer action host).2 := rfl
      have change (changed : Except OsError FileTree) :
          (host.change changed).2.reports = host.reports := by
        cases changed <;> rfl
      rw [asked, ih _ (quiet.2 _ trivial)]
      cases action with
      | inquire query =>
          cases query with
          | report made =>
              have silent : made.isLoud = false := quiet.1
              simp [Host.answer, Host.answerQuery, Query.report?, silent]
          | openFile path => simp [Host.answer, Host.answerQuery, Query.report?]
          | isDirectory path =>
              simp [Host.answer, Host.answerQuery, Query.report?]
          | visibleCpus => simp [Host.answer, Host.answerQuery, Query.report?]
      | readClock => rfl
      | makeDirectories path => rfl
      | writeFile path bytes => exact congrArg _ (change _)
      | rename source target => exact congrArg _ (change _)
      | emit bytes => rfl

/-- A task that only reads leaves the files and the output alone. -/
theorem unchanged_runOn {task : Task α} (reading : task.Only Action.IsReading)
    (host : Host) :
    (task.runOn host).2.files = host.files ∧
      (task.runOn host).2.output = host.output := by
  induction task generalizing host with
  | done value => exact ⟨rfl, rfl⟩
  | ask action next ih =>
      have asked : runOn (Program.ask action next) host =
          runOn (next (Host.answer action host).1)
            (Host.answer action host).2 := rfl
      have later := ih (Host.answer action host).1 (reading.2 _ trivial)
        (Host.answer action host).2
      rw [asked]
      cases action with
      | inquire query => exact later
      | readClock => exact later
      | makeDirectories path => exact absurd reading.1 id
      | writeFile path bytes => exact absurd reading.1 id
      | rename source target => exact absurd reading.1 id
      | emit bytes => exact absurd reading.1 id

theorem quiet_ofInquiry {inquiry : Inquiry α}
    (quiet : inquiry.Only Query.IsQuiet) :
    (ofInquiry inquiry).Only Action.IsQuiet := by
  have handled (query : Query) (silent : query.IsQuiet) :
      (ask (.inquire query)).Only Action.IsQuiet :=
    Program.only_request silent
  exact Program.only_runIn handled quiet

theorem reading_ofInquiry (inquiry : Inquiry α) :
    (ofInquiry inquiry).Only Action.IsReading := by
  induction inquiry with
  | done value => exact Program.within_pure value
  | ask query next ih =>
      exact Program.within_bind (Program.only_request trivial) ih

theorem quiet_report {level : Level} (silent : level ≠ .info ∧ level ≠ .error)
    (text : String) : (report level text).Only Action.IsQuiet := by
  apply quiet_ofInquiry
  apply Program.only_request
  simp [Query.IsQuiet, Report.isLoud, silent]

theorem quiet_readClock : readClock.Only Action.IsQuiet :=
  Program.only_request trivial

theorem reading_readClock : readClock.Only Action.IsReading :=
  Program.only_request trivial

end Task

/-! ## What progress amounts to -/

/-- Progress that leaves files as they are, reads the clock so many times, and
adds certain loud reports and output. -/
structure Progress.Amounts (progress : Progress) (files : FileTree)
    (readings : Nat) (notes : List Report) (lines : List UInt8) : Prop where
  files : progress.files = files
  readings : progress.readings = readings
  notes : progress.reports.filter Report.isLoud = notes
  lines : progress.output = lines

namespace Progress

variable {first second : Progress} {files : FileTree}

theorem amounts_none (files : FileTree) :
    (none files).Amounts files 0 [] [] := ⟨rfl, rfl, rfl, rfl⟩

theorem Amounts.append {readings more : Nat} {notes others : List Report}
    {lines behind : List UInt8}
    (before : first.Amounts files readings notes lines)
    (after : second.Amounts files more others behind) :
    (first.append second).Amounts files (readings + more) (notes ++ others)
      (lines ++ behind) := by
  refine ⟨after.files, ?_, ?_, ?_⟩
  · rw [Progress.append, before.readings, after.readings]
  · rw [Progress.append, List.filter_append, before.notes, after.notes]
  · rw [Progress.append, before.lines, after.lines]

theorem Amounts.shows {host : Host} {readings : Nat} {notes : List Report}
    {lines : List UInt8} {times : List Time}
    (amounts : first.Amounts files readings notes lines)
    (shows : (host.later readings).Shows times) :
    (host.after first).Shows times := by
  rw [← amounts.readings] at shows
  exact shows

/-- But for what was added to it, a host is the same some readings later. -/
theorem Amounts.alike {host : Host} {readings : Nat} {notes : List Report}
    {lines : List UInt8}
    (amounts : first.Amounts host.files readings notes lines) (count : Nat) :
    (host.later readings).Alike (host.after first) count := by
  refine ⟨amounts.files, ?_⟩
  rw [← amounts.readings]
  rfl

end Progress

namespace Task

variable {α : Type}

/-- A quiet task that only reads amounts to readings of the clock. -/
theorem runOn_eq_after_amounts {task : Task α}
    (quiet : task.Only Action.IsQuiet) (reading : task.Only Action.IsReading)
    (host : Host) :
    ∃ value progress, task.runOn host = (value, host.after progress) ∧
      progress.Amounts host.files progress.readings [] [] ∧
      ∀ other, host.Alike other progress.readings →
        task.runOn other = (value, other.after progress) := by
  rcases task.runOn_eq_after host with ⟨value, progress, ran, same⟩
  refine ⟨value, progress, ran, ?_, same⟩
  have unchanged := unchanged_runOn reading host
  have silent := loud_runOn quiet host
  rw [ran] at unchanged silent
  simp only [Host.after, List.filter_append, List.append_right_eq_self]
    at unchanged silent
  exact ⟨unchanged.1, rfl, silent, unchanged.2⟩

/-- After a quiet inquiry, any task goes on as if nothing had been done. -/
theorem runOn_ofInquiry_bind {inquiry : Inquiry α} {host : Host}
    {progress : Progress} (amounts : progress.Amounts host.files 0 [] [])
    (quiet : inquiry.Only Query.IsQuiet) :
    ∃ further, further.Amounts host.files 0 [] [] ∧
      ∀ {β : Type} (next : α → Task β),
        (ofInquiry inquiry >>= next).runOn (host.after progress) =
          (next (inquiry.found host.files)).runOn (host.after further) := by
  have placed : (host.after progress).files = host.files := amounts.files
  have silent := loud_runOn (quiet_ofInquiry quiet) (host.after progress)
  rw [runOn_ofInquiry, placed] at silent
  simp only [List.filter_append, List.append_right_eq_self] at silent
  let asked : Progress := ⟨host.files, 0, inquiry.reports host.files, []⟩
  have more : asked.Amounts host.files 0 [] [] := ⟨rfl, rfl, silent, rfl⟩
  refine ⟨progress.append asked, amounts.append more, ?_⟩
  intro β next
  rw [runOn_bind, runOn_ofInquiry, placed, Progress.after_append]
  simp [Host.after, asked, amounts.files]

end Task

/-! ## Reading files -/

open Program

variable {α : Type}

namespace Inquiry

theorem quiet_report {level : Level} (silent : level ≠ .info ∧ level ≠ .error)
    (text : String) : (report level text).Only Query.IsQuiet := by
  apply only_request
  simp [Query.IsQuiet, Report.isLoud, silent]

theorem detail_report {level : Level} (fine : level = .debug ∨ level = .trace)
    (text : String) : (report level text).Only Query.IsDetail := by
  apply only_request
  simpa [Query.IsDetail, Report.isDetail] using fine

/-- An inquiry that only tells details is quiet. -/
theorem quiet_of_detail {inquiry : Inquiry α}
    (detail : inquiry.Only Query.IsDetail) : inquiry.Only Query.IsQuiet := by
  refine detail.mono ?_
  intro query fine
  cases query with
  | openFile path => trivial
  | isDirectory path => trivial
  | visibleCpus => trivial
  | report made =>
      rcases made with ⟨level, text⟩
      cases level with
      | error => cases fine
      | warn => cases fine
      | info => cases fine
      | debug => rfl
      | trace => rfl

/-- An inquiry that only tells details makes no other report of any tree. -/
theorem isDetail_of_mem_reports {inquiry : Inquiry α}
    (detail : inquiry.Only Query.IsDetail) (tree : FileTree) {made : Report}
    (member : made ∈ inquiry.reports tree) : made.isDetail = true := by
  induction inquiry with
  | done value => cases member
  | ask query next ih =>
      have later := ih (tree.view query) (detail.2 _ trivial)
      cases query with
      | openFile path => exact later member
      | isDirectory path => exact later member
      | visibleCpus => exact later member
      | report told =>
          rcases List.mem_cons.1 member with rfl | member
          · exact detail.1
          · exact later member

theorem detail_openFile (path : Path) : (openFile path).Only Query.IsDetail := by
  refine within_bind (only_request trivial) ?_
  intro opened
  exact within_pure _

theorem detail_isDirectory (path : Path) :
    (isDirectory path).Only Query.IsDetail :=
  only_request trivial

theorem quiet_visibleCpus : visibleCpus.Only Query.IsQuiet :=
  only_request trivial

theorem detail_readLines (path : Path) : (readLines path).Only Query.IsDetail :=
  within_bind (detail_openFile path) fun _ => within_pure _

theorem detail_parseFile (path : Path)
    (parse : Lines → Except ContentError α) :
    (parseFile path parse).Only Query.IsDetail := by
  refine within_bind (detail_readLines path) ?_
  rintro (error | lines)
  · exact within_pure _
  · exact within_pure _

theorem quiet_valueOrWarn {ε : Type} (message : ε → String)
    (context : Option String) (result : Except ε α) :
    (valueOrWarn message context result).Only Query.IsQuiet := by
  cases result with
  | ok value => exact within_pure _
  | error error =>
      cases context with
      | none =>
          exact within_bind (quiet_report (by decide) _) fun _ => within_pure _
      | some context =>
          exact within_bind (quiet_report (by decide) _) fun _ => within_pure _

end Inquiry

open Inquiry

/-! ## Mounts and groups -/

namespace MountTable

theorem detail_read (root : Path) : (read root).Only Query.IsDetail := by
  refine within_bind (detail_readLines _) ?_
  rintro (error | lines)
  · exact within_pure _
  · exact within_pure _

theorem detail_reportWithoutControllers (entry : MountEntry) :
    (reportWithoutControllers entry).Only Query.IsDetail := by
  unfold reportWithoutControllers
  split
  · exact detail_report (by decide) _
  · exact within_pure _

theorem detail_mountedLayouts (root : Path) :
    (mountedLayouts root).Only Query.IsDetail := by
  refine within_bind (detail_read root) ?_
  rintro (error | table)
  · exact within_pure _
  · exact within_bind (only_forM detail_reportWithoutControllers) fun _ =>
      within_pure _

theorem detail_reportControllers (fsType : String) (entry : MountEntry) :
    (reportControllers fsType entry).Only Query.IsDetail := by
  unfold reportControllers
  split
  · split
    · exact detail_report (by decide) _
    · exact only_forM fun _ => detail_report (by decide) _
  · exact within_pure _

theorem detail_controllerMounts (root : Path) (fsType : String) :
    (controllerMounts root fsType).Only Query.IsDetail := by
  refine within_bind (detail_read root) ?_
  rintro (error | table)
  · exact within_pure _
  · exact within_bind (only_forM (detail_reportControllers fsType)) fun _ =>
      within_pure _

theorem detail_unifiedMount (root : Path) (fsType : String) :
    (unifiedMount root fsType).Only Query.IsDetail := by
  refine within_bind (detail_read root) ?_
  rintro (error | table)
  · exact within_pure _
  · simp only
    split
    · exact within_bind (detail_report (by decide) _) fun _ => within_pure _
    · exact within_pure _

end MountTable

theorem GroupLayout.detail_detect (root : Path) :
    (detect root).Only Query.IsDetail := by
  refine within_bind (MountTable.detail_mountedLayouts root) ?_
  rintro (error | layouts)
  · exact within_pure _
  · exact within_pure _

namespace Membership

theorem detail_read (root : Path) (pid : UInt32) :
    (read root pid).Only Query.IsDetail := by
  refine within_bind (detail_readLines _) ?_
  rintro (error | lines)
  · exact within_pure _
  · exact within_pure _

theorem detail_readByController (root : Path) (pid : UInt32) :
    (readByController root pid).Only Query.IsDetail :=
  within_bind (detail_read root pid) fun _ => within_pure _

theorem detail_readUnified (root : Path) (pid : UInt32) :
    (readUnified root pid).Only Query.IsDetail := by
  refine within_bind (detail_read root pid) ?_
  rintro (error | memberships)
  · exact within_pure _
  · simp only
    split
    · exact within_pure _
    · exact within_pure _

end Membership

namespace GroupLocations

theorem detail_resolve (layout : GroupLayout) (root : Path) (pid : UInt32) :
    (resolve layout root pid).Only Query.IsDetail := by
  cases layout with
  | perController =>
      refine within_bind (MountTable.detail_controllerMounts root _) ?_
      rintro (error | mounts)
      · exact within_pure _
      · refine within_bind (Membership.detail_readByController root pid) ?_
        rintro (error | groups)
        · exact within_pure _
        · simp only
          split
          · exact within_pure _
          · exact within_pure _
  | unified =>
      refine within_bind (MountTable.detail_unifiedMount root _) ?_
      rintro (error | mount)
      · exact within_pure _
      · refine within_bind (Membership.detail_readUnified root pid) ?_
        rintro (error | group)
        · exact within_pure _
        · exact within_pure _

theorem detail_parseFile (locations : GroupLocations) (controller file : String)
    (parse : Lines → Except ContentError α) :
    (locations.parseFile controller file parse).Only Query.IsDetail := by
  unfold parseFile
  split
  · exact within_pure _
  · exact Inquiry.detail_parseFile _ parse

end GroupLocations

/-! ## Parts of samples -/

theorem PidsStat.detail_read (locations : GroupLocations) :
    (read locations).Only Query.IsDetail := by
  refine within_bind (locations.detail_parseFile _ _ _) ?_
  rintro (error | current)
  · exact within_pure _
  · refine within_bind (locations.detail_parseFile _ _ _) ?_
    rintro (error | limit)
    · exact within_pure _
    · exact within_pure _

theorem HostCpuUsage.detail_read (root : Path) :
    (read root).Only Query.IsDetail := by
  refine within_bind (detail_readLines _) ?_
  rintro (error | lines)
  · exact within_pure _
  · exact within_pure _

namespace PartReader

variable (reader : PartReader)

theorem quiet_part (controller file : String)
    (parse : Lines → Except ContentError α) (absent : α) :
    (reader.part controller file parse absent).Only Query.IsQuiet := by
  refine within_bind
    (quiet_of_detail (reader.locations.detail_parseFile _ _ _)) ?_
  intro result
  exact within_bind (quiet_valueOrWarn _ _ _) fun _ => within_pure _

theorem quiet_value (controller file : String) :
    (reader.value controller file).Only Query.IsQuiet :=
  reader.quiet_part controller file _ _

theorem quiet_optionalValue (controller file : String) :
    (reader.optionalValue controller file).Only Query.IsQuiet := by
  refine within_bind
    (quiet_of_detail (reader.locations.detail_parseFile _ _ _)) ?_
  rintro (error | value)
  · simp only
    split
    · exact within_bind (quiet_report (by decide) _) fun _ => within_pure _
    · exact within_bind (quiet_report (by decide) _) fun _ => within_pure _
  · exact within_pure _

theorem quiet_cpuset (file : String) :
    (reader.cpuset file).Only Query.IsQuiet := by
  refine within_bind
    (quiet_of_detail (reader.locations.detail_parseFile _ _ _)) ?_
  rintro (error | count)
  · exact within_bind (quiet_report (by decide) _) fun _ => within_pure _
  · exact within_pure _

theorem quiet_pids : reader.pids.Only Query.IsQuiet := by
  refine within_bind (quiet_of_detail (PidsStat.detail_read _)) ?_
  intro result
  exact within_bind (quiet_valueOrWarn _ _ _) fun _ => within_pure _

theorem quiet_hostCpu (root : Path) :
    (reader.hostCpu root).Only Query.IsQuiet := by
  refine within_bind (quiet_of_detail (HostCpuUsage.detail_read root)) ?_
  intro result
  exact within_bind (quiet_valueOrWarn _ _ _) fun _ => within_pure _

end PartReader

theorem NetworkStat.detail_read (lines : Lines) :
    (read lines).Only Query.IsDetail := by
  refine within_bind (only_forM ?_) fun _ => within_pure _
  intro text
  unfold reportMalformed
  split
  · exact detail_report (by decide) _
  · exact within_pure _

/-! ## Whole samples -/

namespace RawSample

variable (reader : PartReader) (root : Path)

theorem quiet_readControllerCpu (settings : ResourceSettings) :
    (readControllerCpu reader root settings).Only Query.IsQuiet := by
  refine within_bind (reader.quiet_part _ _ _ _) fun _ => ?_
  refine within_bind (reader.quiet_part _ _ _ _) fun _ => ?_
  refine within_bind (reader.quiet_part _ _ _ _) fun _ => ?_
  refine within_bind (reader.quiet_hostCpu root) fun _ => ?_
  refine within_bind quiet_visibleCpus fun _ => ?_
  refine within_bind (reader.quiet_cpuset _) fun _ => ?_
  refine within_bind (reader.quiet_value _ _) fun _ => ?_
  refine within_bind (reader.quiet_value _ _) fun _ => ?_
  exact within_pure _

theorem quiet_readControllerMemory :
    (readControllerMemory reader).Only Query.IsQuiet := by
  refine within_bind (reader.quiet_part _ _ _ _) fun _ => ?_
  refine within_bind (reader.quiet_value _ _) fun _ => ?_
  refine within_bind (reader.quiet_optionalValue _ _) fun _ => ?_
  refine within_bind (reader.quiet_value _ _) fun _ => ?_
  refine within_bind (reader.quiet_value _ _) fun _ => ?_
  refine within_bind (reader.quiet_optionalValue _ _) fun _ => ?_
  refine within_bind (reader.quiet_value _ _) fun _ => ?_
  exact within_pure _

theorem quiet_readControllerBlkio :
    (readControllerBlkio reader).Only Query.IsQuiet := by
  refine within_bind (reader.quiet_part _ _ _ _) fun _ => ?_
  refine within_bind (reader.quiet_part _ _ _ _) fun _ => ?_
  exact within_pure _

theorem quiet_readUnifiedCpu (settings : ResourceSettings) :
    (readUnifiedCpu reader root settings).Only Query.IsQuiet := by
  refine within_bind (reader.quiet_part _ _ _ _) fun _ => ?_
  refine within_bind (reader.quiet_hostCpu root) fun _ => ?_
  refine within_bind quiet_visibleCpus fun _ => ?_
  refine within_bind (reader.quiet_cpuset _) fun _ => ?_
  exact within_pure _

theorem quiet_readUnifiedMemory (settings : ResourceSettings) :
    (readUnifiedMemory reader settings).Only Query.IsQuiet := by
  refine within_bind (reader.quiet_part _ _ _ _) fun _ => ?_
  refine within_bind (reader.quiet_value _ _) fun _ => ?_
  refine within_bind (reader.quiet_value _ _) fun _ => ?_
  refine within_bind (reader.quiet_optionalValue _ _) fun _ => ?_
  refine within_bind (reader.quiet_optionalValue _ _) fun _ => ?_
  refine within_bind (reader.quiet_optionalValue _ _) fun _ => ?_
  exact within_pure _

theorem quiet_readParts (layout : GroupLayout) (inspection : Inspection)
    (time : Time) (network : NetworkStat) :
    (readParts layout root inspection time network reader).Only
      Query.IsQuiet := by
  cases layout with
  | perController =>
      refine within_bind (quiet_readControllerCpu reader root _) fun _ => ?_
      refine within_bind (quiet_readControllerMemory reader) fun _ => ?_
      refine within_bind reader.quiet_pids fun _ => ?_
      refine within_bind (quiet_readControllerBlkio reader) fun _ => ?_
      exact within_pure _
  | unified =>
      refine within_bind (quiet_readUnifiedCpu reader root _) fun _ => ?_
      refine within_bind (quiet_readUnifiedMemory reader _) fun _ => ?_
      refine within_bind reader.quiet_pids fun _ => ?_
      refine within_bind (reader.quiet_part _ _ _ _) fun _ => ?_
      exact within_pure _

theorem detail_readNetwork (pid : UInt32) :
    (readNetwork root pid).Only Query.IsDetail := by
  refine within_bind (detail_readLines _) ?_
  rintro (error | lines)
  · exact within_pure _
  · exact within_bind (NetworkStat.detail_read lines) fun _ => within_pure _

theorem quiet_reportLayout (layout : GroupLayout) :
    (reportLayout layout root).Only Query.IsQuiet :=
  quiet_report (by decide) _

/-- Taking a sample is quiet. -/
theorem quiet_fetch (layout : GroupLayout) (time : Time)
    (inspection : Inspection) :
    (fetch layout root time inspection).Only Query.IsQuiet := by
  unfold fetch
  simp only
  split
  · exact within_pure _
  · refine within_bind
      (quiet_of_detail (GroupLocations.detail_resolve layout root _)) ?_
    rintro (error | locations)
    · exact within_pure _
    · refine within_bind (quiet_of_detail (detail_readNetwork root _)) ?_
      rintro (error | network)
      · exact within_pure _
      · exact within_bind (quiet_readParts _ root layout inspection time network)
          fun _ => within_pure _

end RawSample

/-! ## Stores -/

namespace FileStore

/-- Opening a store is quiet. -/
theorem quiet_openAt (path : Path) (lifetime : Option Duration) :
    (openAt path lifetime).Only Query.IsQuiet := by
  have entries : (openEntries path).Only Query.IsQuiet := by
    refine within_bind (quiet_of_detail (detail_openFile path)) ?_
    rintro (error | opened)
    · simp only
      split
      · exact within_bind (quiet_report (by decide) _) fun _ => within_pure _
      · exact within_pure _
    · simp only
      split
      · exact within_pure _
      · exact within_bind (quiet_report (by decide) _) fun _ => within_pure _
  refine within_bind entries ?_
  rintro (error | entries)
  · exact within_pure _
  · exact within_bind (quiet_report (by decide) _) fun _ => within_pure _

theorem quiet_writeDocument (store : FileStore) :
    store.writeDocument.Only Action.IsQuiet := by
  have made : store.makeDirectory.Only Action.IsQuiet := by
    unfold makeDirectory
    split
    · exact within_pure _
    · exact within_bind (only_request trivial) fun _ => within_pure _
  refine within_bind made ?_
  rintro (error | made)
  · exact within_pure _
  · refine within_bind (only_request trivial) ?_
    rintro (cause | written)
    · exact within_pure _
    · simp only
      split
      · exact within_bind (only_request trivial) fun _ => within_pure _
      · exact within_pure _

/-- Saving a store is quiet. -/
theorem quiet_save (store : FileStore) : store.save.Only Action.IsQuiet := by
  refine within_bind Task.quiet_readClock fun now => ?_
  refine within_bind (only_forM fun _ => Task.quiet_report (by decide) _)
    fun _ => ?_
  refine within_bind (quiet_writeDocument _) fun result => ?_
  simp only
  split
  · exact within_bind (Task.quiet_report (by decide) _) fun _ => within_pure _
  · exact within_pure _

end FileStore

end CgroupMeter
