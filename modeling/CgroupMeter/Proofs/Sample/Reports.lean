import CgroupMeter.Proofs.Host.Quiet
import CgroupMeter.Proofs.Sample.Faults
import CgroupMeter.Proofs.Sample.Fetchable

/-!
# What a sample reports

Taking a sample reports only details until the groups and the network counters
are known.  After that there is one report for each thing that is read and
tells nothing, in the order of reading, so that a sample without a warning has
read every file that it requires.
-/

namespace CgroupMeter

/-! ## What the readers of the parts report -/

section Readers

variable {α : Type} (tree : FileTree)

@[simp]
theorem Inquiry.reports_readLines (path : Path) :
    (Inquiry.readLines path).reports tree = [] := rfl

@[simp]
theorem Inquiry.reports_parseFile (path : Path)
    (parse : Lines → Except ContentError α) :
    (Inquiry.parseFile path parse).reports tree = [] := by
  cases opened : tree.linesAt path <;> simp [Inquiry.parseFile, opened]

@[simp]
theorem GroupLocations.reports_parseFile (locations : GroupLocations)
    (controller name : String) (parse : Lines → Except ContentError α) :
    (locations.parseFile controller name parse).reports tree = [] := by
  unfold GroupLocations.parseFile
  split <;> simp

@[simp]
theorem GroupLocations.reports_readValue (locations : GroupLocations)
    (controller name : String) :
    (locations.readValue controller name).reports tree = [] :=
  locations.reports_parseFile tree controller name SingleValue.read

/-- Reading a file of a group gives the value that its lines tell, or the
error that is the fault of the file. -/
theorem AccountFile.fault?_of_parseFile {layout : GroupLayout} {root : Path}
    {controller name : String} (file : AccountFile layout)
    (parse : Lines → Except ContentError α)
    (inGroup : file.inGroup = some (controller, name))
    (judged : ∀ lines, file.refusal? root lines =
      refusalOf ContentError.message (parse lines))
    (locations : GroupLocations) :
    file.fault? root locations tree =
      AccountFault.ofResult?
        ((locations.parseFile controller name parse).found tree) := by
  unfold AccountFile.fault? AccountFile.place GroupLocations.parseFile
  rw [inGroup]
  simp only
  cases placed : locations.statFile controller name with
  | error error => rfl
  | ok path =>
      cases opened : tree.linesAt path with
      | error error =>
          simp [Inquiry.parseFile, opened, AccountFault.ofResult?,
            AccountFault.ofError]
      | ok lines =>
          cases parsed : parse lines <;>
            simp [Inquiry.parseFile, opened, judged, parsed, refusalOf,
              Except.mapError, AccountFault.ofResult?, AccountFault.ofError]

theorem AccountFile.fault?_value {layout : GroupLayout} (root : Path)
    (locations : GroupLocations) {controller name : String}
    (file : AccountFile layout)
    (inGroup : file.inGroup = some (controller, name))
    (judged : ∀ lines, file.refusal? root lines =
      refusalOf ContentError.message (SingleValue.read lines)) :
    file.fault? root locations tree =
      AccountFault.ofResult?
        ((locations.readValue controller name).found tree) :=
  file.fault?_of_parseFile tree _ inGroup judged locations

theorem Inquiry.reports_valueOrWarn {ε : Type} (message : ε → String)
    (context : String) (result : Except ε α) :
    (Inquiry.valueOrWarn message (some context) result).reports tree =
      match result with
      | .ok _ => []
      | .error error => [⟨.warn, s!"{context}: {message error}"⟩] := by
  cases result with
  | ok value => rfl
  | error error => simp [Inquiry.valueOrWarn]

namespace PartReader

variable {layout : GroupLayout} (reader : PartReader) (root : Path)
    (file : AccountFile layout) {controller name : String}
    {parse : Lines → Except ContentError α}

theorem context_eq (inGroup : file.inGroup = some (controller, name)) :
    (Reading.single file).context reader.id = reader.context name := by
  simp [Reading.context, Reading.name?, inGroup, context]

/-- Reading a required file reports its fault as a warning. -/
theorem reports_part (inGroup : file.inGroup = some (controller, name))
    (required : file.need = .required)
    (judged : ∀ lines, file.refusal? root lines =
      refusalOf ContentError.message (parse lines)) (absent : α) :
    (reader.part controller name parse absent).reports tree =
      ((Reading.single file).report? reader.id root reader.locations
        tree).toList := by
  simp only [Reading.report?, Reading.fault?,
    file.fault?_of_parseFile tree _ inGroup judged, part,
    Inquiry.reports_bind, GroupLocations.reports_parseFile, List.nil_append,
    Inquiry.reports_valueOrWarn, Inquiry.reports_pure, List.append_nil]
  cases read : (reader.locations.parseFile controller name parse).found
      tree with
  | ok value => rfl
  | error error =>
      simp [AccountFault.ofResult?,
        Reading.reportOf_required (.single file) required,
        context_eq reader file inGroup]

/-- What is reported of an optional file depends on whether its error says that
it was not found. -/
theorem reports_optionalValue_eq (controller name : String) :
    (reader.optionalValue controller name).reports tree =
      match (reader.locations.readValue controller name).found tree with
      | .ok _ => []
      | .error error =>
          if error.isNotFound then
            [⟨.debug, s!"{reader.context name} not present"⟩]
          else [⟨.warn, s!"{reader.context name}: {error.message}"⟩] := by
  simp only [optionalValue, Inquiry.reports_bind,
    GroupLocations.reports_readValue, List.nil_append]
  cases (reader.locations.readValue controller name).found tree with
  | ok value => rfl
  | error error =>
      by_cases missing : error.isNotFound = true <;> simp [missing]

/-- Reading an optional file reports its fault as a warning, unless the file
does not exist. -/
theorem reports_optionalValue
    (inGroup : file.inGroup = some (controller, name))
    (optional : file.need = .optional)
    (judged : ∀ lines, file.refusal? root lines =
      refusalOf ContentError.message (SingleValue.read lines)) :
    (reader.optionalValue controller name).reports tree =
      ((Reading.single file).report? reader.id root reader.locations
        tree).toList := by
  simp only [Reading.report?, Reading.fault?,
    file.fault?_value tree root reader.locations inGroup judged,
    reports_optionalValue_eq]
  cases (reader.locations.readValue controller name).found tree with
  | ok value => rfl
  | error error =>
      by_cases missing : error.isNotFound = true <;>
        simp [AccountFault.ofResult?,
          Reading.reportOf_optional (.single file) optional, missing,
          context_eq reader file inGroup]

/-- Reading the list of CPUs reports its fault as a detail. -/
theorem reports_cpuset (inGroup : file.inGroup = some ("cpuset", name))
    (fallback : file.need = .fallback)
    (judged : ∀ lines, file.refusal? root lines =
      refusalOf ContentError.message (parseCpuset lines)) :
    (reader.cpuset name).reports tree =
      ((Reading.single file).report? reader.id root reader.locations
        tree).toList := by
  simp only [Reading.report?, Reading.fault?,
    file.fault?_of_parseFile tree _ inGroup judged, cpuset,
    Inquiry.reports_bind, GroupLocations.reports_parseFile, List.nil_append]
  cases read : (reader.locations.parseFile "cpuset" name parseCpuset).found
      tree with
  | ok value => rfl
  | error error =>
      simp [AccountFault.ofResult?,
        Reading.reportOf_fallback (.single file) fallback,
        context_eq reader file inGroup]

/-- Reading the CPU time of the host reports its fault as a warning. -/
theorem reports_hostCpu (layout : GroupLayout) :
    (reader.hostCpu root).reports tree =
      ((Reading.single (AccountFile.hostCpu : AccountFile layout)).report?
        reader.id root reader.locations tree).toList := by
  have required : (Reading.single (.hostCpu : AccountFile layout)).need =
      .required := by
    cases layout <;> rfl
  simp only [hostCpu, HostCpuUsage.read, Inquiry.reports_bind,
    Inquiry.found_bind, Inquiry.found_readLines, Inquiry.reports_readLines,
    Inquiry.reports_valueOrWarn, Inquiry.reports_pure, List.nil_append,
    List.append_nil, Reading.report?, Reading.fault?]
  cases opened : tree.linesAt (HostCpuUsage.path root) with
  | error error =>
      have fault : (AccountFile.hostCpu : AccountFile layout).fault? root
          reader.locations tree = some (.unopened error) := by
        simp [AccountFile.fault?, AccountFile.place, AccountFile.inGroup,
          opened]
      rw [fault]
      rfl
  | ok lines =>
      have fault : (AccountFile.hostCpu : AccountFile layout).fault? root
          reader.locations tree =
            (refusalOf HostCpuError.message (HostCpuUsage.ofLines
              (HostCpuUsage.path root) lines)).map .unusable := by
        simp [AccountFile.fault?, AccountFile.place, AccountFile.inGroup,
          AccountFile.refusal?, opened]
      rw [fault]
      cases told : HostCpuUsage.ofLines (HostCpuUsage.path root) lines <;>
        simp [told, refusalOf, Reading.reportOf_required _ required,
          Reading.context, Reading.name?, AccountFile.inGroup,
          AccountFault.message]

/-- Reading the tasks reports the fault of the first file that has one as a
warning. -/
theorem reports_pids (layout : GroupLayout) :
    reader.pids.reports tree =
      ((Reading.tasks : Reading layout).report? reader.id root
        reader.locations tree).toList := by
  have current := AccountFile.fault?_value tree root reader.locations
    (AccountFile.pidsCurrent : AccountFile layout) rfl fun _ => rfl
  have limit := AccountFile.fault?_value tree root reader.locations
    (AccountFile.pidsMax : AccountFile layout) rfl fun _ => rfl
  simp only [Reading.report?, Reading.fault?, current, limit, pids,
    PidsStat.read, Inquiry.reports_bind, GroupLocations.reports_readValue,
    Inquiry.found_bind, Inquiry.reports_valueOrWarn, Inquiry.reports_pure,
    List.nil_append, List.append_nil]
  cases now : (reader.locations.readValue "pids" "pids.current").found tree with
  | error error =>
      simp [AccountFault.ofResult?, Reading.reportOf_required .tasks rfl,
        Reading.context, Reading.name?, context]
  | ok count =>
      cases most : (reader.locations.readValue "pids" "pids.max").found tree <;>
        simp [AccountFault.ofResult?, Reading.reportOf_required .tasks rfl,
          Reading.context, Reading.name?, context, most]

end PartReader

end Readers

namespace RawSample

variable (layout : GroupLayout) (root : Path) (inspection : Inspection)
    (time : Time) (network : NetworkStat) (reader : PartReader)
    (tree : FileTree)

/-- The reports of readings that tell nothing, in order. -/
abbrev reportsOf {layout : GroupLayout} (readings : List (Reading layout)) :
    List Report :=
  readings.filterMap (Reading.report? reader.id root reader.locations tree)

theorem reports_readControllerCpu (settings : ResourceSettings) :
    (readControllerCpu reader root settings).reports tree =
      reportsOf root reader tree (Reading.cpuOrder .perController) := by
  simp only [readControllerCpu, PartReader.value, Inquiry.reports_bind,
    Inquiry.reports_visibleCpus, Inquiry.reports_pure, List.append_nil,
    List.nil_append, reportsOf, Reading.cpuOrder,
    List.filterMap_eq_flatMap_toList, List.flatMap_cons, List.flatMap_nil]
  rw [reader.reports_part tree root .cpuTicks rfl rfl fun _ => rfl,
    reader.reports_part tree root .throttling rfl rfl fun _ => rfl,
    reader.reports_part tree root .perCpuUsage rfl rfl fun _ => rfl,
    reader.reports_hostCpu tree root .perController,
    reader.reports_cpuset tree root (.cpuset : AccountFile .perController) rfl
      rfl fun _ => rfl,
    reader.reports_part tree root .cpuUsage rfl rfl fun _ => rfl,
    reader.reports_part tree root .cpuShares rfl rfl fun _ => rfl]

theorem reports_readControllerMemory :
    (readControllerMemory reader).reports tree =
      reportsOf root reader tree (Reading.memoryOrder .perController) := by
  simp only [readControllerMemory, PartReader.value, Inquiry.reports_bind,
    Inquiry.reports_pure, List.append_nil, reportsOf, Reading.memoryOrder,
    List.filterMap_eq_flatMap_toList, List.flatMap_cons, List.flatMap_nil]
  rw [reader.reports_part tree root .memoryStat rfl rfl fun _ => rfl,
    reader.reports_part tree root .memoryLimit rfl rfl fun _ => rfl,
    reader.reports_optionalValue tree root .memoryAndSwapUsage rfl rfl
      fun _ => rfl,
    reader.reports_part tree root .memoryUsage rfl rfl fun _ => rfl,
    reader.reports_part tree root .kernelUsage rfl rfl fun _ => rfl,
    reader.reports_optionalValue tree root .memoryAndSwapLimit rfl rfl
      fun _ => rfl,
    reader.reports_part tree root .softLimit rfl rfl fun _ => rfl]

theorem reports_readControllerBlkio :
    (readControllerBlkio reader).reports tree =
      reportsOf root reader tree (Reading.blkioOrder .perController) := by
  simp only [readControllerBlkio, Inquiry.reports_bind, Inquiry.reports_pure,
    List.append_nil, reportsOf, Reading.blkioOrder,
    List.filterMap_eq_flatMap_toList, List.flatMap_cons, List.flatMap_nil]
  rw [reader.reports_part tree root .serviceBytes rfl rfl fun _ => rfl,
    reader.reports_part tree root .serviced rfl rfl fun _ => rfl]

theorem reports_readUnifiedCpu (settings : ResourceSettings) :
    (readUnifiedCpu reader root settings).reports tree =
      reportsOf root reader tree (Reading.cpuOrder .unified) := by
  simp only [readUnifiedCpu, Inquiry.reports_bind, Inquiry.reports_visibleCpus,
    Inquiry.reports_pure, List.append_nil, List.nil_append, reportsOf,
    Reading.cpuOrder, List.filterMap_eq_flatMap_toList, List.flatMap_cons,
    List.flatMap_nil]
  rw [reader.reports_part tree root .unifiedCpuStat rfl rfl fun _ => rfl,
    reader.reports_hostCpu tree root .unified,
    reader.reports_cpuset tree root (.cpuset : AccountFile .unified) rfl rfl
      fun _ => rfl]

theorem reports_readUnifiedMemory (settings : ResourceSettings) :
    (readUnifiedMemory reader settings).reports tree =
      reportsOf root reader tree (Reading.memoryOrder .unified) := by
  simp only [readUnifiedMemory, PartReader.value, Inquiry.reports_bind,
    Inquiry.reports_pure, List.append_nil, reportsOf, Reading.memoryOrder,
    List.filterMap_eq_flatMap_toList, List.flatMap_cons, List.flatMap_nil]
  rw [reader.reports_part tree root .unifiedMemoryStat rfl rfl fun _ => rfl,
    reader.reports_part tree root .memoryCurrent rfl rfl fun _ => rfl,
    reader.reports_part tree root .memoryMax rfl rfl fun _ => rfl,
    reader.reports_optionalValue tree root .swapCurrent rfl rfl fun _ => rfl,
    reader.reports_optionalValue tree root .swapMax rfl rfl fun _ => rfl,
    reader.reports_optionalValue tree root .memoryLow rfl rfl fun _ => rfl]

theorem reports_readUnifiedBlkio :
    (readUnifiedBlkio reader).reports tree =
      reportsOf root reader tree (Reading.blkioOrder .unified) := by
  simp only [readUnifiedBlkio, reportsOf, Reading.blkioOrder,
    List.filterMap_eq_flatMap_toList, List.flatMap_cons, List.flatMap_nil,
    List.append_nil]
  exact reader.reports_part tree root .ioStat rfl rfl (fun _ => rfl) _

theorem reportsOf_tasks :
    reader.pids.reports tree =
      reportsOf root reader tree [(.tasks : Reading layout)] := by
  rw [reader.reports_pids tree root layout]
  simp [List.filterMap_eq_flatMap_toList]

/-- Reading the parts of a sample gives one report for each reading that tells
nothing, in the order of reading. -/
theorem reports_readParts :
    (readParts layout root inspection time network reader).reports tree =
      reportsOf root reader tree (Reading.order layout) := by
  cases layout with
  | perController =>
      simp only [readParts, Inquiry.reports_bind, Inquiry.reports_pure,
        reports_readControllerCpu, reports_readControllerMemory root,
        reports_readControllerBlkio root, reportsOf_tasks .perController root,
        List.append_nil, Reading.order, List.filterMap_append,
        List.append_assoc]
  | unified =>
      simp only [readParts, Inquiry.reports_bind, Inquiry.reports_pure,
        reports_readUnifiedCpu, reports_readUnifiedMemory root,
        reports_readUnifiedBlkio root, reportsOf_tasks .unified root,
        List.append_nil, Reading.order, List.filterMap_append,
        List.append_assoc]

variable {layout root inspection time tree}

/-- Before the parts of a sample are read, only details are reported. -/
theorem reports_fetch {raw : RawSample}
    (taken : (fetch layout root time inspection).found tree = .ok raw) :
    ∃ locations before,
      (GroupLocations.resolve layout root inspection.pid).found tree =
          .ok locations ∧
        (∀ made ∈ before, made.isDetail = true) ∧
        (fetch layout root time inspection).reports tree =
          before ++ (Reading.order layout).filterMap
            (Reading.report? inspection.id root locations tree) := by
  rcases (found_fetch_eq_ok_iff ..).1 taken with
    ⟨runs, locations, network, located, counted, -⟩
  refine ⟨locations,
    (GroupLocations.resolve layout root inspection.pid).reports tree ++
      (readNetwork root inspection.pid).reports tree, located, ?_, ?_⟩
  · intro made member
    rcases List.mem_append.1 member with member | member
    · exact Inquiry.isDetail_of_mem_reports
        (GroupLocations.detail_resolve layout root _) tree member
    · exact Inquiry.isDetail_of_mem_reports (detail_readNetwork root _) tree
        member
  · simp [fetch, runs, located, counted, reports_readParts]

/-- The warnings of a sample that is taken are one for each reading that is
worth one, in the order of reading; a fallback that tells nothing and an
optional file that does not exist are only details.  A sample without a
warning has read every file that it requires. -/
theorem fetch_warns_of_each_fault {raw : RawSample}
    (taken : (fetch layout root time inspection).found tree = .ok raw) :
    ∃ locations before,
      (GroupLocations.resolve layout root inspection.pid).found tree =
          .ok locations ∧
        (∀ made ∈ before, made.isDetail = true) ∧
        (fetch layout root time inspection).reports tree =
          before ++ (Reading.order layout).filterMap
            (Reading.report? inspection.id root locations tree) ∧
        ((fetch layout root time inspection).reports tree).filter
            Report.isWarning =
          (Reading.order layout).filterMap
            (Reading.warning? inspection.id root locations tree) ∧
        (∀ reading : Reading layout,
          ((reading.warning? inspection.id root locations tree).isSome ↔
              reading.Warned root locations tree) ∧
            ((∃ text, reading.report? inspection.id root locations tree =
                some ⟨.debug, text⟩) ↔
              reading.Noted root locations tree)) ∧
        (((fetch layout root time inspection).reports tree).filter
            Report.isWarning = [] →
          ∀ file : AccountFile layout, file.need = .required →
            (file.told? root locations tree).isSome) := by
  rcases reports_fetch taken with ⟨locations, before, located, detail, reports⟩
  have silent : before.filter Report.isWarning = [] := by
    rw [List.filter_eq_nil_iff]
    intro made member warning
    have fine := detail made member
    simp_all [Report.isWarning, Report.isDetail]
  have warnings : ((fetch layout root time inspection).reports tree).filter
      Report.isWarning =
        (Reading.order layout).filterMap
          (Reading.warning? inspection.id root locations tree) := by
    rw [reports, List.filter_append, silent, List.nil_append,
      List.filter_filterMap]
    rfl
  refine ⟨locations, before, located, detail, reports, warnings,
    fun reading =>
      ⟨reading.isSome_warning?_iff _, reading.report?_debug_iff _⟩, ?_⟩
  rw [warnings, List.filterMap_eq_nil_iff]
  intro none file required
  have unwarned : ∀ reading ∈ Reading.order layout,
      ¬ reading.Warned root locations tree := by
    intro reading member
    rw [← reading.isSome_warning?_iff inspection.id]
    simp [none reading member]
  by_contra told
  have silent : file.told? root locations tree = Option.none := by
    simpa using told
  rcases Reading.mem_order file with member | ⟨member, tasks⟩
  · exact unwarned _ member ⟨silent, Or.inl required⟩
  · rcases tasks with rfl | rfl
    · exact unwarned _ member (Or.inl silent)
    · exact unwarned _ member (Or.inr silent)

/-- A container in the unified hierarchy whose swap limit is a directory, and
which has neither a limit of tasks nor a count of swap. -/
def halfToldContainer : FileTree :=
  hostTree "cgroup2 /c cgroup2 rw" "0::/"
    [(["c"], .directory),
      (["stat", "proc"], .file (Text.toBytes "cpu 1 2 3 4 5 6 7")),
      (["cpu.stat", "c"], .file []), (["memory.stat", "c"], .file []),
      (["memory.current", "c"], .file (Text.toBytes "9")),
      (["memory.max", "c"], .file (Text.toBytes "max")),
      (["memory.swap.max", "c"], .directory),
      (["pids.current", "c"], .file (Text.toBytes "3")),
      (["io.stat", "c"], .file [])]

theorem halfToldContainer_warns :
    (∃ raw, (fetch .unified ⟨"/"⟩ ⟨0⟩ processSeven).found halfToldContainer =
        .ok raw) ∧
      ((fetch .unified ⟨"/"⟩ ⟨0⟩ processSeven).reports halfToldContainer).filter
          Report.isWarning =
        [⟨.warn, "container `job`: memory.swap.max: Is a directory (os error 21)"⟩,
          ⟨.warn, "container `job`: pids: failed to open file `/c/pids.max`: No such file or directory (os error 2)"⟩] ∧
      (Reading.single (AccountFile.swapCurrent)).Noted ⟨"/"⟩
        (.unified ⟨"/c/"⟩) halfToldContainer := by
  have isOk : ((fetch .unified ⟨"/"⟩ ⟨0⟩ processSeven).found
      halfToldContainer).isOk = true := by
    decide +kernel
  have placed : (GroupLocations.resolve .unified ⟨"/"⟩
      processSeven.pid).found halfToldContainer = .ok (.unified ⟨"/c/"⟩) := by
    rfl
  rcases exists_ok_of_isOk isOk with ⟨raw, taken⟩
  rcases fetch_warns_of_each_fault taken with
    ⟨locations, before, located, -, -, warnings, each, -⟩
  cases placed.symm.trans located
  refine ⟨⟨raw, taken⟩, warnings.trans (by decide +kernel), ?_⟩
  exact (each _).2.1
    ⟨"container `job`: memory.swap.current not present", by decide +kernel⟩

end RawSample

end CgroupMeter
