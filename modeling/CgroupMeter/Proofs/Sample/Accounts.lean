import CgroupMeter.Proofs.Host.Reading
import CgroupMeter.Sample.Fetch

/-!
# The files behind a sample

The parts of a sample that may be missing come from a fixed set of accounting
files in each layout of control groups: files of the container's groups, and
the CPU times of the host.  What a sample says is a function of what each of
these files tells, where a file that cannot be used tells nothing.
-/

namespace CgroupMeter

/-- The accounting files that a sample is taken from, but for the network
counters. -/
inductive AccountFile : GroupLayout → Type where
  /-- CPU time of the host. -/
  | hostCpu {layout : GroupLayout} : AccountFile layout
  /-- CPUs that the group may run on. -/
  | cpuset {layout : GroupLayout} : AccountFile layout
  | pidsCurrent {layout : GroupLayout} : AccountFile layout
  | pidsMax {layout : GroupLayout} : AccountFile layout
  | cpuTicks : AccountFile .perController
  | throttling : AccountFile .perController
  | perCpuUsage : AccountFile .perController
  | cpuUsage : AccountFile .perController
  | cpuShares : AccountFile .perController
  | memoryStat : AccountFile .perController
  | memoryLimit : AccountFile .perController
  | memoryUsage : AccountFile .perController
  | kernelUsage : AccountFile .perController
  | softLimit : AccountFile .perController
  /-- Memory and swap in use, together. -/
  | memoryAndSwapUsage : AccountFile .perController
  /-- The limit of memory and swap together. -/
  | memoryAndSwapLimit : AccountFile .perController
  | serviceBytes : AccountFile .perController
  | serviced : AccountFile .perController
  | unifiedCpuStat : AccountFile .unified
  | unifiedMemoryStat : AccountFile .unified
  | memoryCurrent : AccountFile .unified
  | memoryMax : AccountFile .unified
  | swapCurrent : AccountFile .unified
  | swapMax : AccountFile .unified
  | memoryLow : AccountFile .unified
  | ioStat : AccountFile .unified

/-- How the lines of an accounting file are read. -/
structure AccountReader where
  /-- What the lines tell. -/
  Value : Type
  /-- Why they cannot be used. -/
  Refusal : Type
  /-- Read the lines, on the host whose root is visible at a path. -/
  read : Path → Lines → Except Refusal Value
  /-- The wording of a refusal. -/
  message : Refusal → String

/-- The lines of a file of a group are refused for their content. -/
@[reducible]
def AccountReader.ofContent {α : Type} (read : Lines → Except ContentError α) :
    AccountReader :=
  ⟨α, ContentError, fun _ => read, ContentError.message⟩

namespace AccountFile

/-- How each file is read. -/
@[reducible]
def reader : {layout : GroupLayout} → AccountFile layout → AccountReader
  | _, .hostCpu =>
      ⟨_, _, fun root => HostCpuUsage.ofLines (HostCpuUsage.path root),
        HostCpuError.message⟩
  | _, .cpuset => .ofContent PartReader.parseCpuset
  | _, .cpuTicks => .ofContent CpuTicksStat.format.read
  | _, .throttling => .ofContent ThrottlingStat.format.read
  | _, .perCpuUsage => .ofContent PerCpuUsage.read
  | _, .memoryStat => .ofContent ControllerMemoryStat.format.read
  | _, .serviceBytes => .ofContent BlkioStat.readController
  | _, .serviced => .ofContent BlkioStat.readController
  | _, .unifiedCpuStat => .ofContent UnifiedCpuStat.format.read
  | _, .unifiedMemoryStat => .ofContent UnifiedMemoryStat.format.read
  | _, .ioStat => .ofContent BlkioStat.readUnified
  | _, _ => .ofContent SingleValue.read

/-- What a file is read as. -/
@[reducible]
def Value {layout : GroupLayout} (file : AccountFile layout) : Type :=
  file.reader.Value

/-- The controller and the name of a file of a group. -/
def inGroup : {layout : GroupLayout} → AccountFile layout →
    Option (String × String)
  | _, .hostCpu => none
  | .perController, .cpuset => some ("cpuset", "cpuset.cpus")
  | .unified, .cpuset => some ("cpuset", "cpuset.cpus.effective")
  | _, .pidsCurrent => some ("pids", "pids.current")
  | _, .pidsMax => some ("pids", "pids.max")
  | _, .cpuTicks => some ("cpuacct", "cpuacct.stat")
  | _, .throttling => some ("cpu", "cpu.stat")
  | _, .perCpuUsage => some ("cpuacct", "cpuacct.usage_percpu")
  | _, .cpuUsage => some ("cpuacct", "cpuacct.usage")
  | _, .cpuShares => some ("cpu", "cpu.shares")
  | _, .memoryStat => some ("memory", "memory.stat")
  | _, .memoryLimit => some ("memory", "memory.limit_in_bytes")
  | _, .memoryUsage => some ("memory", "memory.usage_in_bytes")
  | _, .kernelUsage => some ("memory", "memory.kmem.usage_in_bytes")
  | _, .softLimit => some ("memory", "memory.soft_limit_in_bytes")
  | _, .memoryAndSwapUsage => some ("memory", "memory.memsw.usage_in_bytes")
  | _, .memoryAndSwapLimit => some ("memory", "memory.memsw.limit_in_bytes")
  | _, .serviceBytes => some ("blkio", "blkio.throttle.io_service_bytes")
  | _, .serviced => some ("blkio", "blkio.throttle.io_serviced")
  | _, .unifiedCpuStat => some ("cpu", "cpu.stat")
  | _, .unifiedMemoryStat => some ("memory", "memory.stat")
  | _, .memoryCurrent => some ("memory", "memory.current")
  | _, .memoryMax => some ("memory", "memory.max")
  | _, .swapCurrent => some ("memory", "memory.swap.current")
  | _, .swapMax => some ("memory", "memory.swap.max")
  | _, .memoryLow => some ("memory", "memory.low")
  | _, .ioStat => some ("io", "io.stat")

/-- What the lines of a file tell, if they can be used. -/
def parse (root : Path) {layout : GroupLayout} (file : AccountFile layout)
    (lines : Lines) : Option file.Value :=
  (file.reader.read root lines).toOption

section Reading

variable {layout : GroupLayout} (root : Path) (locations : GroupLocations)

/-- Where a file is, if its group has a directory. -/
def path? (file : AccountFile layout) : Option Path :=
  match file.inGroup with
  | none => some (HostCpuUsage.path root)
  | some (controller, name) => (locations.statFile controller name).toOption

/-- What a file tells, if it is there and can be used. -/
def told? (tree : FileTree) (file : AccountFile layout) : Option file.Value :=
  (file.path? root locations).bind fun path =>
    (tree.linesAt path).toOption.bind (file.parse root)

theorem told?_eq_of_showSame {first second : FileTree}
    {file : AccountFile layout}
    (same : ∀ path, file.path? root locations = some path →
      first.ShowSame second path) :
    file.told? root locations first = file.told? root locations second := by
  cases place : file.path? root locations with
  | none => simp [told?, place]
  | some path => simp [told?, place, (same path place).toOption_linesAt]

end Reading

end AccountFile

/-- What each accounting file tells. -/
abbrev Accounts (layout : GroupLayout) :=
  (file : AccountFile layout) → Option file.Value

/-- What the accounting files of a container tell in a tree. -/
def FileTree.accounts (tree : FileTree) (layout : GroupLayout) (root : Path)
    (locations : GroupLocations) : Accounts layout :=
  fun file => file.told? root locations tree

namespace Accounts

/-- The CPU counters that the files tell, where a program sees some CPUs. -/
def cpu (visible : UInt32) :
    {layout : GroupLayout} → Accounts layout → ResourceSettings → RawCpu
  | .perController, told, settings =>
      let ticks : CpuTicksStat := (told .cpuTicks).getD ⟨0, 0⟩
      let throttling : ThrottlingStat := (told .throttling).getD ⟨0, 0, 0⟩
      let host : HostCpuUsage := (told .hostCpu).getD ⟨0, 0⟩
      let perCpu : List Counter := (told .perCpuUsage).getD []
      let online := RawSample.hostCpus visible host perCpu
      { totalUsage := (told .cpuUsage).getD (0 : Counter)
        userUsage := ticksToNanos ticks.user
        kernelUsage := ticksToNanos ticks.system
        perCpuUsage := perCpu
        systemUsage := host.usage
        onlineCpus := online
        throttlingPeriods := throttling.periods
        throttledPeriods := throttling.throttledPeriods
        throttledNanos := throttling.throttledNanos
        shares := (told .cpuShares).getD (0 : Counter)
        limitCores := RawSample.limitCores settings (told .cpuset) online }
  | .unified, told, settings =>
      let stat : UnifiedCpuStat :=
        (told .unifiedCpuStat).getD ⟨0, 0, 0, 0, 0, 0⟩
      let host : HostCpuUsage := (told .hostCpu).getD ⟨0, 0⟩
      let online := RawSample.hostCpus visible host []
      { totalUsage := microsToNanos stat.usageMicros
        userUsage := microsToNanos stat.userMicros
        kernelUsage := microsToNanos stat.systemMicros
        perCpuUsage := []
        systemUsage := host.usage
        onlineCpus := online
        throttlingPeriods := stat.periods
        throttledPeriods := stat.throttledPeriods
        throttledNanos := microsToNanos stat.throttledMicros
        shares := settings.cpuShares
        limitCores := RawSample.limitCores settings (told .cpuset) online }

/-- The memory counters that the files tell. -/
def memory : {layout : GroupLayout} → Accounts layout → ResourceSettings →
    RawMemory
  | .perController, told, _ =>
      let stat : ControllerMemoryStat := (told .memoryStat).getD ⟨0, 0⟩
      { usageLimit := (told .memoryLimit).getD (0 : Counter)
        cache := stat.cache
        rss := stat.anonymous
        swapUsage := (told .memoryAndSwapUsage).getD (0 : Counter)
        fuzzUsage := (told .memoryUsage).getD (0 : Counter)
        kernelUsage := (told .kernelUsage).getD (0 : Counter)
        swapLimit := (told .memoryAndSwapLimit).getD (0 : Counter)
        softLimit := (told .softLimit).getD (0 : Counter) }
  | .unified, told, settings =>
      let stat : UnifiedMemoryStat := (told .unifiedMemoryStat).getD ⟨0, 0, 0, 0⟩
      let current : Counter := (told .memoryCurrent).getD (0 : Counter)
      let max : Counter := (told .memoryMax).getD (0 : Counter)
      let low : Counter := (told .memoryLow).getD (0 : Counter)
      { usageLimit := max
        cache := stat.file
        rss := stat.anonymous
        swapUsage := Counter.add ((told .swapCurrent).getD (0 : Counter)) current
        fuzzUsage := current
        kernelUsage := stat.kernelUsage
        swapLimit := Counter.add ((told .swapMax).getD (0 : Counter)) max
        softLimit := if low = 0 then settings.memoryReservation else low }

/-- The tasks that the files tell, none unless both files can be used. -/
def pids {layout : GroupLayout} (told : Accounts layout) : PidsStat :=
  match told .pidsCurrent, told .pidsMax with
  | some current, some limit => ⟨current, PidsStat.limitOf limit⟩
  | _, _ => ⟨0, 0⟩

/-- The block I/O counts that the files tell. -/
def blkio : {layout : GroupLayout} → Accounts layout → BlkioStat
  | .perController, told =>
      ⟨(told .serviceBytes).getD [], (told .serviced).getD []⟩
  | .unified, told => (told .ioStat).getD ⟨[], []⟩

/-- The sample that the files tell, where a program sees some CPUs. -/
def sample {layout : GroupLayout} (visible : UInt32) (told : Accounts layout)
    (inspection : Inspection) (time : Time) (network : NetworkStat) :
    RawSample where
  containerId := inspection.id
  time := time
  cpu := told.cpu visible inspection.settings
  memory := told.memory inspection.settings
  pids := told.pids
  blkio := told.blkio
  network := network

end Accounts

/-! ## What the readers of the parts find -/

section Readers

variable {α : Type} (tree : FileTree)

theorem Inquiry.found_parseFile (path : Path)
    (parse : Lines → Except ContentError α) :
    ((Inquiry.parseFile path parse).found tree).toOption =
      (tree.linesAt path).toOption.bind fun lines =>
        (parse lines).toOption := by
  cases opened : tree.linesAt path with
  | error error => simp [Inquiry.parseFile, opened, Except.toOption]
  | ok lines =>
      cases parsed : parse lines <;>
        simp [Inquiry.parseFile, opened, parsed, Except.mapError,
          Except.toOption]

theorem GroupLocations.found_parseFile (locations : GroupLocations)
    (controller file : String) (parse : Lines → Except ContentError α) :
    ((locations.parseFile controller file parse).found tree).toOption =
      (locations.statFile controller file).toOption.bind fun path =>
        (tree.linesAt path).toOption.bind fun lines =>
          (parse lines).toOption := by
  cases place : locations.statFile controller file with
  | error error => simp [GroupLocations.parseFile, place, Except.toOption]
  | ok path =>
      simp only [GroupLocations.parseFile, place, Inquiry.found_parseFile]
      simp [Except.toOption]

theorem Inquiry.found_valueOrWarn {ε : Type} (message : ε → String)
    (context : Option String) (result : Except ε α) :
    (Inquiry.valueOrWarn message context result).found tree =
      result.toOption := by
  cases result with
  | ok value => rfl
  | error error =>
      cases context <;> simp [Inquiry.valueOrWarn, Except.toOption]

namespace PartReader

variable (reader : PartReader)

@[simp]
theorem found_part (controller file : String)
    (parse : Lines → Except ContentError α) (absent : α) :
    (reader.part controller file parse absent).found tree =
      ((reader.locations.statFile controller file).toOption.bind fun path =>
        (tree.linesAt path).toOption.bind fun lines =>
          (parse lines).toOption).getD absent := by
  simp [part, Inquiry.found_valueOrWarn, GroupLocations.found_parseFile]

@[simp]
theorem found_optionalValue (controller file : String) :
    (reader.optionalValue controller file).found tree =
      ((reader.locations.statFile controller file).toOption.bind fun path =>
        (tree.linesAt path).toOption.bind fun lines =>
          (SingleValue.read lines).toOption).getD 0 := by
  rw [← GroupLocations.found_parseFile]
  cases read : (reader.locations.readValue controller file).found tree with
  | ok value =>
      have parsed := read
      rw [GroupLocations.readValue] at parsed
      simp [optionalValue, read, parsed, Except.toOption]
  | error error =>
      have parsed := read
      rw [GroupLocations.readValue] at parsed
      by_cases missing : error.isNotFound = true <;>
        simp [optionalValue, read, parsed, missing, Except.toOption]

@[simp]
theorem found_cpuset (file : String) :
    (reader.cpuset file).found tree =
      (reader.locations.statFile "cpuset" file).toOption.bind fun path =>
        (tree.linesAt path).toOption.bind fun lines =>
          (parseCpuset lines).toOption := by
  rw [← GroupLocations.found_parseFile]
  cases read : (reader.locations.parseFile "cpuset" file parseCpuset).found
      tree <;> simp [cpuset, read, Except.toOption]

@[simp]
theorem found_hostCpu (root : Path) :
    (reader.hostCpu root).found tree =
      ((tree.linesAt (HostCpuUsage.path root)).toOption.bind fun lines =>
        (HostCpuUsage.ofLines (HostCpuUsage.path root) lines).toOption).getD
          ⟨0, 0⟩ := by
  cases opened : tree.linesAt (HostCpuUsage.path root) <;>
    simp [hostCpu, HostCpuUsage.read, Inquiry.found_valueOrWarn, opened,
      Except.toOption]

end PartReader

end Readers

namespace RawSample

variable (layout : GroupLayout) (root : Path) (inspection : Inspection)
    (time : Time) (network : NetworkStat) (locations : GroupLocations)
    (tree : FileTree)

theorem found_pids (id : ContainerId) :
    (PartReader.pids ⟨id, locations⟩).found tree =
      (tree.accounts layout root locations).pids := by
  have current : ((locations.readValue "pids" "pids.current").found tree).toOption
      = (tree.accounts layout root locations) .pidsCurrent :=
    GroupLocations.found_parseFile tree locations _ _ _
  have limit : ((locations.readValue "pids" "pids.max").found tree).toOption
      = (tree.accounts layout root locations) .pidsMax :=
    GroupLocations.found_parseFile tree locations _ _ _
  unfold Accounts.pids
  rw [← current, ← limit]
  cases now : (locations.readValue "pids" "pids.current").found tree with
  | error error =>
      simp [PartReader.pids, PidsStat.read, Inquiry.found_valueOrWarn, now,
        Except.toOption]
  | ok current =>
      cases most : (locations.readValue "pids" "pids.max").found tree <;>
        simp [PartReader.pids, PidsStat.read, Inquiry.found_valueOrWarn, now,
          most, Except.toOption]

/-- The parts of a sample are those that the accounting files tell. -/
theorem found_readParts :
    (readParts layout root inspection time network
        ⟨inspection.id, locations⟩).found tree =
      (tree.accounts layout root locations).sample tree.visibleCpus
        inspection time network := by
  cases layout with
  | perController =>
      simp only [readParts, readControllerCpu, readControllerMemory,
        readControllerBlkio, PartReader.value, Inquiry.found_bind,
        Inquiry.found_pure, PartReader.found_part,
        PartReader.found_optionalValue, PartReader.found_cpuset,
        PartReader.found_hostCpu, Inquiry.found_visibleCpus,
        found_pids .perController root]
      rfl
  | unified =>
      simp only [readParts, readUnifiedCpu, readUnifiedMemory,
        readUnifiedBlkio, PartReader.value, Inquiry.found_bind,
        Inquiry.found_pure, PartReader.found_part,
        PartReader.found_optionalValue, PartReader.found_cpuset,
        PartReader.found_hostCpu, Inquiry.found_visibleCpus,
        found_pids .unified root]
      rfl

theorem found_readNetwork (pid : UInt32) :
    (readNetwork root pid).found tree =
      match tree.linesAt (networkPath root pid) with
      | .error error => .error (.openFile error)
      | .ok lines =>
          (lines.finish (NetworkStat.total
            (lines.texts.drop NetworkStat.headerLines))).mapError .read := by
  cases opened : tree.linesAt (networkPath root pid) <;>
    simp [readNetwork, NetworkStat.read, opened]

theorem found_readNetwork_eq_ok_of_showSame {first second : FileTree}
    {root : Path} {pid : UInt32} {network : NetworkStat}
    (same : first.ShowSame second (networkPath root pid))
    (counted : (readNetwork root pid).found first = .ok network) :
    (readNetwork root pid).found second = .ok network := by
  rw [found_readNetwork] at counted ⊢
  cases opened : first.linesAt (networkPath root pid) with
  | error error => simp [opened] at counted
  | ok lines =>
      rw [opened] at counted
      rw [same.linesAt_eq_ok opened]
      exact counted

theorem found_fetch :
    (fetch layout root time inspection).found tree =
      if inspection.pid = 0 then .error (.noProcess inspection.id)
      else
        match (GroupLocations.resolve layout root inspection.pid).found tree with
        | .error error => .error (.locations inspection.id error)
        | .ok locations =>
            match (readNetwork root inspection.pid).found tree with
            | .error error =>
                .error (.network inspection.id
                  (networkPath root inspection.pid) error)
            | .ok network =>
                .ok ((tree.accounts layout root locations).sample
                  tree.visibleCpus inspection time network) := by
  by_cases gone : inspection.pid = 0
  · simp [fetch, gone]
  · cases located :
        (GroupLocations.resolve layout root inspection.pid).found tree with
    | error error => simp [fetch, gone, located]
    | ok locations =>
        cases counted : (readNetwork root inspection.pid).found tree <;>
          simp [fetch, gone, located, counted, found_readParts]

/-- A sample that is taken is the one that the accounting files and the
network counters tell. -/
theorem found_fetch_eq_ok_iff {raw : RawSample} :
    (fetch layout root time inspection).found tree = .ok raw ↔
      inspection.pid ≠ 0 ∧ ∃ locations network,
        (GroupLocations.resolve layout root inspection.pid).found tree =
            .ok locations ∧
          (readNetwork root inspection.pid).found tree = .ok network ∧
          raw = (tree.accounts layout root locations).sample
            tree.visibleCpus inspection time network := by
  rw [found_fetch]
  by_cases gone : inspection.pid = 0
  · simp [gone]
  · cases located :
        (GroupLocations.resolve layout root inspection.pid).found tree with
    | error error => simp [gone]
    | ok locations =>
        cases counted : (readNetwork root inspection.pid).found tree <;>
          simp [gone, eq_comm]

end RawSample

end CgroupMeter
