import CgroupMeter.Metrics.Sample
import CgroupMeter.Proofs.Sample.Fetchable
import CgroupMeter.Proofs.Stat.Blkio
import CgroupMeter.Proofs.Stat.KeyValue

/-!
# Both layouts tell the same metrics

What a container uses and may use can be written in the files of either layout
of control groups: with other names, other words for what is unlimited, and
with swap counted together with memory or apart from it.  The memory, block
I/O and task metrics do not depend on which of the two a host has.
-/

namespace CgroupMeter

/-- A host with a running container whose groups and network counters are
known. -/
structure GroupHost (layout : GroupLayout) where
  root : Path
  tree : FileTree
  inspection : Inspection
  locations : GroupLocations
  running : inspection.pid ≠ 0
  located : (GroupLocations.resolve layout root inspection.pid).found tree =
    .ok locations
  counted : RawSample.NetworkReadable root inspection.pid tree

namespace GroupHost

variable {layout : GroupLayout}

/-- What the accounting files of the container tell. -/
def accounts (host : GroupHost layout) : Accounts layout :=
  host.tree.accounts layout host.root host.locations

/-- An accounting file is there and has these lines. -/
def Shows (host : GroupHost layout) (file : AccountFile layout)
    (texts : List String) : Prop :=
  ∃ path, file.path? host.root host.locations = some path ∧
    host.tree.linesAt path = .ok ⟨texts, none⟩

theorem Shows.tells {host : GroupHost layout} {file : AccountFile layout}
    {texts : List String} (shows : host.Shows file texts) {value : file.Value}
    (read : file.parse host.root ⟨texts, none⟩ = some value) :
    host.accounts file = some value := by
  rcases shows with ⟨path, place, lines⟩
  simp [accounts, FileTree.accounts, AccountFile.told?, place, lines,
    Except.toOption, read]

/-- A sample of the container is taken, and tells what the files tell. -/
theorem fetch_eq (host : GroupHost layout) (time : Time) :
    ∃ network,
      (RawSample.fetch layout host.root time host.inspection).found host.tree =
        .ok (host.accounts.sample host.tree.visibleCpus host.inspection time
          network) := by
  rcases RawSample.found_readNetwork_iff.2 host.counted with
    ⟨network, counted⟩
  exact ⟨network, (RawSample.found_fetch_eq_ok_iff ..).2
    ⟨host.running, host.locations, network, host.located, counted, rfl⟩⟩

end GroupHost

/-! ## What a container uses, and how it is written -/

/-- What a container uses and may use.  A limit that is missing is none. -/
structure ResourceState where
  anonymous : Counter
  cache : Counter
  usage : Counter
  swap : Counter
  kernelStack : Counter
  slab : Counter
  softLimit : Option Counter
  memoryLimit : Option Counter
  swapLimit : Option Counter
  pids : Counter
  pidsLimit : Option Counter
  devices : List DeviceCounts

namespace ResourceState

/-- The number that hierarchies of single controllers write for no limit. -/
def unlimited : Counter := 9223372036854771712

/-- A limit in the hierarchies of single controllers. -/
def controllerText (limit : Option Nat) : String :=
  (limit.getD unlimited.toNat).repr

/-- A limit in the unified hierarchy. -/
def unifiedText (limit : Option Nat) : String :=
  match limit with
  | some limit => limit.repr
  | none => "max"

/-- The limit of memory and swap together, if both are limited. -/
def combinedLimit (state : ResourceState) : Option Nat :=
  match state.memoryLimit, state.swapLimit with
  | some memory, some swap => some (memory.toNat + swap.toNat)
  | _, _ => none

/-- The combined limit as a counter. -/
def combined (state : ResourceState) : Option Counter :=
  match state.memoryLimit, state.swapLimit with
  | some memory, some swap => some (Counter.add memory swap)
  | _, _ => none

/-- The amounts that are added stay in range. -/
structure InRange (state : ResourceState) : Prop where
  memoryAndSwap : state.usage.toNat + state.swap.toNat < UInt64.size
  kernel : state.kernelStack.toNat + state.slab.toNat < UInt64.size
  limits : ∀ limit, state.combinedLimit = some limit → limit < UInt64.size

/-- The files of the hierarchies of single controllers tell a state. -/
structure InControllers (state : ResourceState)
    (host : GroupHost .perController) : Prop where
  memoryStat : ∃ texts, host.Shows .memoryStat texts ∧
    KeyValueFormat.Lists ControllerMemoryStat.format.keys texts
      [("rss", state.anonymous), ("cache", state.cache)]
  memoryUsage : host.Shows .memoryUsage [state.usage.toNat.repr]
  memoryAndSwapUsage : host.Shows .memoryAndSwapUsage
    [(state.usage.toNat + state.swap.toNat).repr]
  kernelUsage : host.Shows .kernelUsage
    [(state.kernelStack.toNat + state.slab.toNat).repr]
  softLimit : host.Shows .softLimit
    [controllerText (state.softLimit.map UInt64.toNat)]
  memoryLimit : host.Shows .memoryLimit
    [controllerText (state.memoryLimit.map UInt64.toNat)]
  memoryAndSwapLimit : host.Shows .memoryAndSwapLimit
    [controllerText state.combinedLimit]
  pidsCurrent : host.Shows .pidsCurrent [state.pids.toNat.repr]
  pidsMax : host.Shows .pidsMax
    [unifiedText (state.pidsLimit.map UInt64.toNat)]
  serviceBytes : ∃ texts, host.Shows .serviceBytes texts ∧
    ThrottleLists texts
      (state.devices.map fun device =>
        (device.major, device.minor, device.readBytes))
      (state.devices.map fun device =>
        (device.major, device.minor, device.writeBytes))
  serviced : ∃ texts, host.Shows .serviced texts ∧
    ThrottleLists texts
      (state.devices.map fun device =>
        (device.major, device.minor, device.readOps))
      (state.devices.map fun device =>
        (device.major, device.minor, device.writeOps))

/-- The files of the unified hierarchy tell a state. -/
structure InUnified (state : ResourceState)
    (host : GroupHost .unified) : Prop where
  memoryStat : ∃ texts, host.Shows .unifiedMemoryStat texts ∧
    KeyValueFormat.Lists UnifiedMemoryStat.format.keys texts
      [("anon", state.anonymous), ("file", state.cache),
        ("kernel_stack", state.kernelStack), ("slab", state.slab)]
  memoryCurrent : host.Shows .memoryCurrent [state.usage.toNat.repr]
  swapCurrent : host.Shows .swapCurrent [state.swap.toNat.repr]
  memoryLow : host.Shows .memoryLow
    [unifiedText (state.softLimit.map UInt64.toNat)]
  memoryMax : host.Shows .memoryMax
    [unifiedText (state.memoryLimit.map UInt64.toNat)]
  swapMax : host.Shows .swapMax
    [unifiedText (state.swapLimit.map UInt64.toNat)]
  pidsCurrent : host.Shows .pidsCurrent [state.pids.toNat.repr]
  pidsMax : host.Shows .pidsMax
    [unifiedText (state.pidsLimit.map UInt64.toNat)]
  ioStat : ∃ texts, host.Shows .ioStat texts ∧ IoLists texts state.devices

/-! ## What is read of it -/

theorem read_unifiedText (limit : Option Counter) :
    SingleValue.read ⟨[unifiedText (limit.map UInt64.toNat)], none⟩ =
      .ok (limit.getD Counter.largest) := by
  cases limit with
  | none => exact SingleValue.read_max
  | some limit => exact SingleValue.read_repr limit

theorem read_controllerText (limit : Option Counter) :
    SingleValue.read ⟨[controllerText (limit.map UInt64.toNat)], none⟩ =
      .ok (limit.getD unlimited) := by
  cases limit with
  | none => exact SingleValue.read_repr unlimited
  | some limit => exact SingleValue.read_repr limit

variable {state : ResourceState}

theorem map_toNat_combined (inRange : state.InRange) :
    state.combined.map UInt64.toNat = state.combinedLimit := by
  have limits := inRange.limits
  unfold combined combinedLimit at *
  cases memoryLimit : state.memoryLimit with
  | none => simp
  | some memory =>
      cases swapLimit : state.swapLimit with
      | none => simp
      | some swap =>
          have small := limits (memory.toNat + swap.toNat)
            (by simp [memoryLimit, swapLimit])
          simp only [Option.map_some, ← Counter.ofNat_add small,
            UInt64.toNat_ofNat_of_lt' small]

/-- The tasks of a state. -/
def pidsStat (state : ResourceState) : PidsStat :=
  ⟨state.pids, PidsStat.limitOf (state.pidsLimit.getD Counter.largest)⟩

theorem pids_of_shows {layout : GroupLayout} {host : GroupHost layout}
    (current : host.Shows .pidsCurrent [state.pids.toNat.repr])
    (limit : host.Shows .pidsMax
      [unifiedText (state.pidsLimit.map UInt64.toNat)]) :
    host.accounts.pids = state.pidsStat := by
  have now : host.accounts .pidsCurrent = some state.pids :=
    current.tells
      (by simp only [AccountFile.parse, SingleValue.read_repr, Except.toOption])
  have most : host.accounts .pidsMax =
      some (state.pidsLimit.getD Counter.largest) :=
    limit.tells
      (by simp only [AccountFile.parse, read_unifiedText, Except.toOption])
  simp [Accounts.pids, now, most, pidsStat]

theorem InControllers.blkio {host : GroupHost .perController}
    (told : state.InControllers host) :
    BlkioMetrics.ofStat host.accounts.blkio =
      BlkioMetrics.ofDevices state.devices := by
  rcases told.serviceBytes with ⟨texts, shown, lists⟩
  rcases BlkioMetrics.read_of_throttleLists lists with
    ⟨serviceBytes, read, readBytes, writeBytes⟩
  have bytes : host.accounts .serviceBytes = some serviceBytes :=
    shown.tells (by simp only [AccountFile.parse, read, Except.toOption])
  rcases told.serviced with ⟨texts, shown, lists⟩
  rcases BlkioMetrics.read_of_throttleLists lists with
    ⟨serviced, read, readOps, writeOps⟩
  have operations : host.accounts .serviced = some serviced :=
    shown.tells (by simp only [AccountFile.parse, read, Except.toOption])
  simp [Accounts.blkio, bytes, operations, BlkioMetrics.ofStat,
    BlkioMetrics.ofDevices, readBytes, writeBytes, readOps, writeOps,
    Function.comp_def]

theorem InUnified.blkio {host : GroupHost .unified}
    (told : state.InUnified host) :
    BlkioMetrics.ofStat host.accounts.blkio =
      BlkioMetrics.ofDevices state.devices := by
  rcases told.ioStat with ⟨texts, shown, lists⟩
  rcases BlkioMetrics.read_of_ioLists lists with ⟨stat, read, metrics⟩
  have counts : host.accounts .ioStat = some stat :=
    shown.tells (by simp only [AccountFile.parse, read, Except.toOption])
  simp [Accounts.blkio, counts, metrics]

/-- The memory counters of a state, with numbers for the limits. -/
def memory (state : ResourceState) (limit combined soft : Counter) :
    RawMemory where
  usageLimit := limit
  cache := state.cache
  rss := state.anonymous
  swapUsage := Counter.add state.usage state.swap
  fuzzUsage := state.usage
  kernelUsage := Counter.add state.kernelStack state.slab
  swapLimit := combined
  softLimit := soft

theorem InControllers.memoryStat_told {host : GroupHost .perController}
    (told : state.InControllers host) :
    host.accounts .memoryStat =
      some (⟨state.anonymous, state.cache⟩ : ControllerMemoryStat) := by
  rcases told.memoryStat with ⟨texts, shown, lists⟩
  have read := KeyValueFormat.read_of_lists rfl
    ControllerMemoryStat.setsFields_format.exchanges lists
    (by simpa using (by decide : ∀ key ∈ ["rss", "cache"],
      key ∈ ControllerMemoryStat.format.keys ∧ Text.IsWord key))
    (by simp)
  have taken : [("rss", state.anonymous), ("cache", state.cache)].foldl
      ControllerMemoryStat.format.take ControllerMemoryStat.format.initial =
        ⟨state.anonymous, state.cache⟩ := by
    simp [KeyValueFormat.take, ControllerMemoryStat.format, List.lookup_cons]
  rw [taken] at read
  exact shown.tells (by simp only [AccountFile.parse, read, Except.toOption])

theorem InControllers.memory_eq {host : GroupHost .perController}
    (told : state.InControllers host) (inRange : state.InRange)
    (settings : ResourceSettings) :
    host.accounts.memory settings =
      state.memory (state.memoryLimit.getD unlimited)
        (state.combined.getD unlimited) (state.softLimit.getD unlimited) := by
  have usage : host.accounts .memoryUsage = some state.usage :=
    told.memoryUsage.tells
      (by simp only [AccountFile.parse, SingleValue.read_repr, Except.toOption])
  have memoryAndSwap : host.accounts .memoryAndSwapUsage =
      some (Counter.add state.usage state.swap) := by
    rw [← Counter.ofNat_add inRange.memoryAndSwap]
    exact told.memoryAndSwapUsage.tells (by
      simp only [AccountFile.parse, SingleValue.read_repr_of_lt inRange.memoryAndSwap,
        Except.toOption])
  have kernel : host.accounts .kernelUsage =
      some (Counter.add state.kernelStack state.slab) := by
    rw [← Counter.ofNat_add inRange.kernel]
    exact told.kernelUsage.tells (by
      simp only [AccountFile.parse, SingleValue.read_repr_of_lt inRange.kernel,
        Except.toOption])
  have limit : host.accounts .memoryLimit =
      some (state.memoryLimit.getD unlimited) :=
    told.memoryLimit.tells
      (by simp only [AccountFile.parse, read_controllerText, Except.toOption])
  have combined : host.accounts .memoryAndSwapLimit =
      some (state.combined.getD unlimited) := by
    refine told.memoryAndSwapLimit.tells ?_
    rw [← map_toNat_combined inRange]
    simp only [AccountFile.parse, read_controllerText, Except.toOption]
  have soft : host.accounts .softLimit =
      some (state.softLimit.getD unlimited) :=
    told.softLimit.tells
      (by simp only [AccountFile.parse, read_controllerText, Except.toOption])
  simp [Accounts.memory, memory, told.memoryStat_told, usage, memoryAndSwap,
    kernel, limit, combined, soft]

theorem InUnified.memoryStat_told {host : GroupHost .unified}
    (told : state.InUnified host) :
    host.accounts .unifiedMemoryStat =
      some (⟨state.anonymous, state.cache, state.kernelStack, state.slab⟩ :
        UnifiedMemoryStat) := by
  rcases told.memoryStat with ⟨texts, shown, lists⟩
  have read := KeyValueFormat.read_of_lists rfl
    UnifiedMemoryStat.setsFields_format.exchanges lists
    (by simpa using (by decide :
      ∀ key ∈ ["anon", "file", "kernel_stack", "slab"],
        key ∈ UnifiedMemoryStat.format.keys ∧ Text.IsWord key))
    (by simp)
  have taken : [("anon", state.anonymous), ("file", state.cache),
      ("kernel_stack", state.kernelStack), ("slab", state.slab)].foldl
      UnifiedMemoryStat.format.take UnifiedMemoryStat.format.initial =
        ⟨state.anonymous, state.cache, state.kernelStack, state.slab⟩ := by
    simp [KeyValueFormat.take, UnifiedMemoryStat.format, List.lookup_cons]
  rw [taken] at read
  exact shown.tells (by simp only [AccountFile.parse, read, Except.toOption])

theorem InUnified.memory_eq {host : GroupHost .unified}
    (told : state.InUnified host) {settings : ResourceSettings}
    (unset : settings.memoryReservation = 0) :
    host.accounts.memory settings =
      state.memory (state.memoryLimit.getD Counter.largest)
        (Counter.add (state.swapLimit.getD Counter.largest)
          (state.memoryLimit.getD Counter.largest))
        (state.softLimit.getD Counter.largest) := by
  have current : host.accounts .memoryCurrent = some state.usage :=
    told.memoryCurrent.tells
      (by simp only [AccountFile.parse, SingleValue.read_repr, Except.toOption])
  have swap : host.accounts .swapCurrent = some state.swap :=
    told.swapCurrent.tells
      (by simp only [AccountFile.parse, SingleValue.read_repr, Except.toOption])
  have limit : host.accounts .memoryMax =
      some (state.memoryLimit.getD Counter.largest) :=
    told.memoryMax.tells
      (by simp only [AccountFile.parse, read_unifiedText, Except.toOption])
  have swapLimit : host.accounts .swapMax =
      some (state.swapLimit.getD Counter.largest) :=
    told.swapMax.tells
      (by simp only [AccountFile.parse, read_unifiedText, Except.toOption])
  have low : host.accounts .memoryLow =
      some (state.softLimit.getD Counter.largest) :=
    told.memoryLow.tells
      (by simp only [AccountFile.parse, read_unifiedText, Except.toOption])
  have reserved : ∀ low : Counter,
      (if low = 0 then settings.memoryReservation else low) = low := by
    intro low
    by_cases zero : low = 0
    · simp [zero, unset]
    · simp [zero]
  simp [Accounts.memory, memory, told.memoryStat_told, current, swap, limit,
    swapLimit, low, reserved, UnifiedMemoryStat.kernelUsage,
    Counter.add_comm state.swap]

/-- What is unlimited is shown as no limit, whichever number stands for it. -/
theorem shownLimit_getD (limit : Option Counter) :
    MemoryMetrics.shownLimit (limit.getD unlimited) =
      MemoryMetrics.shownLimit (limit.getD Counter.largest) := by
  cases limit with
  | none => decide
  | some limit => rfl

theorem getD_combined (state : ResourceState) :
    state.combined.getD Counter.largest =
      Counter.add (state.swapLimit.getD Counter.largest)
        (state.memoryLimit.getD Counter.largest) := by
  unfold combined
  cases memoryLimit : state.memoryLimit with
  | none => simp
  | some memory =>
      cases swapLimit : state.swapLimit with
      | none => simp
      | some swap => simp [Counter.add_comm]

theorem ofRaw_memory (state : ResourceState)
    {firstLimit secondLimit firstCombined secondCombined firstSoft
      secondSoft : Counter}
    (limit : MemoryMetrics.shownLimit firstLimit =
      MemoryMetrics.shownLimit secondLimit)
    (combined : MemoryMetrics.shownLimit firstCombined =
      MemoryMetrics.shownLimit secondCombined)
    (soft : MemoryMetrics.shownLimit firstSoft =
      MemoryMetrics.shownLimit secondSoft) :
    MemoryMetrics.ofRaw (state.memory firstLimit firstCombined firstSoft) =
      MemoryMetrics.ofRaw
        (state.memory secondLimit secondCombined secondSoft) := by
  simp only [MemoryMetrics.ofRaw, MemoryMetrics.withoutSwap, memory, limit,
    combined, soft]
  rfl

/-- A host of either layout that tells the same state yields the same memory,
block I/O and task metrics, where the settings reserve no memory. -/
theorem layouts_yield_same_metrics (inRange : state.InRange)
    {older : GroupHost .perController} (inControllers : state.InControllers older)
    {newer : GroupHost .unified} (inUnified : state.InUnified newer)
    (unset : newer.inspection.settings.memoryReservation = 0)
    (olderTime newerTime : Time)
    (olderPrevious newerPrevious : Option StoredSample) :
    ∃ olderRaw newerRaw,
      (RawSample.fetch .perController older.root olderTime
        older.inspection).found older.tree = .ok olderRaw ∧
      (RawSample.fetch .unified newer.root newerTime
        newer.inspection).found newer.tree = .ok newerRaw ∧
      let first := MetricsSample.derive older.inspection olderRaw olderPrevious
      let second := MetricsSample.derive newer.inspection newerRaw newerPrevious
      first.memory = second.memory ∧ first.blkio = second.blkio ∧
        first.pids = second.pids := by
  rcases older.fetch_eq olderTime with ⟨olderNetwork, olderTaken⟩
  rcases newer.fetch_eq newerTime with ⟨newerNetwork, newerTaken⟩
  refine ⟨_, _, olderTaken, newerTaken, ?_, ?_, ?_⟩
  · simp only [MetricsSample.derive, Accounts.sample,
      inControllers.memory_eq inRange, inUnified.memory_eq unset]
    apply ofRaw_memory
    · exact shownLimit_getD state.memoryLimit
    · rw [← getD_combined]
      exact shownLimit_getD state.combined
    · exact shownLimit_getD state.softLimit
  · simp only [MetricsSample.derive, Accounts.sample, inControllers.blkio,
      inUnified.blkio]
  · simp only [MetricsSample.derive, Accounts.sample,
      pids_of_shows inControllers.pidsCurrent inControllers.pidsMax,
      pids_of_shows inUnified.pidsCurrent inUnified.pidsMax]

/-! ## One state on two hosts -/

/-- Files with their texts. -/
def textFiles (files : List (Location × String)) : List (Location × Entry) :=
  files.map fun file => (file.1, .file (Text.toBytes file.2))

/-- A container with a memory limit and without a swap limit. -/
def halfLimited : ResourceState where
  anonymous := 3
  cache := 4
  usage := 9
  swap := 5
  kernelStack := 1
  slab := 2
  softLimit := none
  memoryLimit := some 100
  swapLimit := none
  pids := 6
  pidsLimit := none
  devices := [⟨8, 0, 7, 8, 1, 2⟩]

def olderHost : GroupHost .perController where
  root := ⟨"/"⟩
  tree := RawSample.hostTree "v1 /c/all cgroup memory,pids,blkio"
    "1:memory,pids,blkio:/"
    ([(["c"], Entry.directory), (["memory", "c"], .directory),
      (["pids", "c"], .directory), (["blkio", "c"], .directory)] ++ textFiles
    [(["memory.stat", "memory", "c"], "rss 3\ncache 4"),
      (["memory.usage_in_bytes", "memory", "c"], "9"),
      (["memory.memsw.usage_in_bytes", "memory", "c"], "14"),
      (["memory.kmem.usage_in_bytes", "memory", "c"], "3"),
      (["memory.soft_limit_in_bytes", "memory", "c"], "9223372036854771712"),
      (["memory.limit_in_bytes", "memory", "c"], "100"),
      (["memory.memsw.limit_in_bytes", "memory", "c"], "9223372036854771712"),
      (["pids.current", "pids", "c"], "6"),
      (["pids.max", "pids", "c"], "max"),
      (["blkio.throttle.io_service_bytes", "blkio", "c"],
        "8:0 Read 7\n8:0 Write 8\nTotal 15"),
      (["blkio.throttle.io_serviced", "blkio", "c"],
        "8:0 Read 1\n8:0 Write 2\nTotal 3")])
  inspection := RawSample.processSeven
  locations := .perController
    (KeyMap.ofList [("memory", ⟨"/c"⟩), ("pids", ⟨"/c"⟩), ("blkio", ⟨"/c"⟩)])
    (KeyMap.ofList [("memory", "/"), ("pids", "/"), ("blkio", "/")])
  running := by decide
  located := by rfl
  counted := ⟨[], by rfl, by simp⟩

def newerHost : GroupHost .unified where
  root := ⟨"/"⟩
  tree := RawSample.hostTree "cgroup2 /c cgroup2 rw" "0::/"
    ((["c"], Entry.directory) :: textFiles
    [(["memory.stat", "c"], "anon 3\nfile 4\nkernel_stack 1\nslab 2"),
      (["memory.current", "c"], "9"), (["memory.swap.current", "c"], "5"),
      (["memory.low", "c"], "max"), (["memory.max", "c"], "100"),
      (["memory.swap.max", "c"], "max"), (["pids.current", "c"], "6"),
      (["pids.max", "c"], "max"),
      (["io.stat", "c"], "8:0 rbytes=7 wbytes=8 rios=1 wios=2 dbytes=0")])
  inspection := RawSample.processSeven
  locations := .unified ⟨"/c/"⟩
  running := by decide
  located := by rfl
  counted := ⟨[], by rfl, by simp⟩

theorem inControllers_halfLimited : halfLimited.InControllers olderHost where
  memoryStat := by
    refine ⟨_, ⟨_, rfl, rfl⟩, [.known "rss" 3, .known "cache" 4], by decide,
      .refl _, ?_⟩
    intro text member
    simp at member
  memoryUsage := ⟨_, rfl, rfl⟩
  memoryAndSwapUsage := ⟨_, rfl, rfl⟩
  kernelUsage := ⟨_, rfl, rfl⟩
  softLimit := ⟨_, rfl, rfl⟩
  memoryLimit := ⟨_, rfl, rfl⟩
  memoryAndSwapLimit := ⟨_, rfl, rfl⟩
  pidsCurrent := ⟨_, rfl, rfl⟩
  pidsMax := ⟨_, rfl, rfl⟩
  serviceBytes := ⟨_, ⟨_, rfl, rfl⟩,
    [.count 8 0 .read 7, .count 8 0 .write 8, .total 15], by decide, .refl _,
    .refl _⟩
  serviced := ⟨_, ⟨_, rfl, rfl⟩,
    [.count 8 0 .read 1, .count 8 0 .write 2, .total 3], by decide, .refl _,
    .refl _⟩

theorem inUnified_halfLimited : halfLimited.InUnified newerHost where
  memoryStat := by
    refine ⟨_, ⟨_, rfl, rfl⟩,
      [.known "anon" 3, .known "file" 4, .known "kernel_stack" 1,
        .known "slab" 2], by decide, .refl _, ?_⟩
    intro text member
    simp at member
  memoryCurrent := ⟨_, rfl, rfl⟩
  swapCurrent := ⟨_, rfl, rfl⟩
  memoryLow := ⟨_, rfl, rfl⟩
  memoryMax := ⟨_, rfl, rfl⟩
  swapMax := ⟨_, rfl, rfl⟩
  pidsCurrent := ⟨_, rfl, rfl⟩
  pidsMax := ⟨_, rfl, rfl⟩
  ioStat := by
    refine ⟨_, ⟨_, rfl, rfl⟩, [⟨⟨8, 0, 7, 8, 1, 2⟩, ["dbytes=0"]⟩],
      by decide, ?_, .refl _⟩
    intro line member
    obtain rfl := List.mem_singleton.1 member
    intro word further
    obtain rfl := List.mem_singleton.1 further
    refine ⟨by decide, ?_⟩
    intro key value parts
    cases parts
    rfl

theorem halfLimited_on_both_hosts :
    ∃ olderRaw newerRaw,
      (RawSample.fetch .perController ⟨"/"⟩ ⟨0⟩ RawSample.processSeven).found
          olderHost.tree = .ok olderRaw ∧
      (RawSample.fetch .unified ⟨"/"⟩ ⟨0⟩ RawSample.processSeven).found
          newerHost.tree = .ok newerRaw ∧
      let first := MetricsSample.derive RawSample.processSeven olderRaw none
      let second := MetricsSample.derive RawSample.processSeven newerRaw none
      first.memory = second.memory ∧ first.blkio = second.blkio ∧
        first.pids = second.pids := by
  have inRange : halfLimited.InRange :=
    ⟨by decide, by decide, by simp [combinedLimit, halfLimited]⟩
  exact layouts_yield_same_metrics inRange inControllers_halfLimited
    inUnified_halfLimited rfl ⟨0⟩ ⟨0⟩ none none

end ResourceState

end CgroupMeter
