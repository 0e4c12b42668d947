import CgroupMeter.Proofs.Counter
import CgroupMeter.Proofs.Sample.Fetchable

/-!
# Faults stay with their file

Each part of a sample depends on its own files only.  Where one file stops
telling anything, the fields that are read from it fall to zero, and of the
other fields only those change that take it into account: the number of CPUs,
the CPUs that the container may use, swap, which the unified hierarchy counts
apart from memory, and the soft limit, which the settings stand in for.
-/

namespace CgroupMeter

/-- The parts of a sample. -/
inductive SamplePart where
  | cpu
  | memory
  | pids
  | blkio
  | network

namespace SamplePart

/-- The part that a file belongs to. -/
def ofFile : {layout : GroupLayout} → AccountFile layout → SamplePart
  | _, .hostCpu => .cpu
  | _, .cpuset => .cpu
  | _, .cpuTicks => .cpu
  | _, .throttling => .cpu
  | _, .perCpuUsage => .cpu
  | _, .cpuUsage => .cpu
  | _, .cpuShares => .cpu
  | _, .unifiedCpuStat => .cpu
  | _, .pidsCurrent => .pids
  | _, .pidsMax => .pids
  | _, .serviceBytes => .blkio
  | _, .serviced => .blkio
  | _, .ioStat => .blkio
  | _, .memoryStat => .memory
  | _, .memoryLimit => .memory
  | _, .memoryUsage => .memory
  | _, .kernelUsage => .memory
  | _, .softLimit => .memory
  | _, .memoryAndSwapUsage => .memory
  | _, .memoryAndSwapLimit => .memory
  | _, .unifiedMemoryStat => .memory
  | _, .memoryCurrent => .memory
  | _, .memoryMax => .memory
  | _, .swapCurrent => .memory
  | _, .swapMax => .memory
  | _, .memoryLow => .memory

/-- A path is that of a file of a part. -/
def Reads (part : SamplePart) (layout : GroupLayout) (root : Path)
    (pid : UInt32) (locations : GroupLocations) (path : Path) : Prop :=
  (part = .network ∧ path = RawSample.networkPath root pid) ∨
    ∃ file : AccountFile layout,
      ofFile file = part ∧ file.path? root locations = some path

/-- Two samples have the same part. -/
def SameIn (part : SamplePart) (first second : RawSample) : Prop :=
  match part with
  | .cpu => first.cpu = second.cpu
  | .memory => first.memory = second.memory
  | .pids => first.pids = second.pids
  | .blkio => first.blkio = second.blkio
  | .network => first.network = second.network

end SamplePart

namespace RawCpu

/-- CPU counters with another number of CPUs of the host. -/
def onCpus (cpu : RawCpu) (settings : ResourceSettings)
    (cpuset : Option Counter) (online : UInt32) : RawCpu :=
  { cpu with
    onlineCpus := online
    limitCores := RawSample.limitCores settings cpuset online }

/-- The number of CPUs and the CPUs that the container may use follow the
order of their sources, where a program sees some CPUs. -/
structure FollowsOrder {layout : GroupLayout} (visible : UInt32)
    (told : Accounts layout) (settings : ResourceSettings) (cpu : RawCpu) :
    Prop where
  listed : ∀ host, told .hostCpu = some host → 0 < host.onlineCpus →
    cpu.onlineCpus = host.onlineCpus
  counted : (∀ host, told .hostCpu = some host → host.onlineCpus = 0) →
    0 < cpu.perCpuUsage.length → cpu.perCpuUsage.length < UInt32.size →
      cpu.onlineCpus.toNat = cpu.perCpuUsage.length
  visible : (∀ host, told .hostCpu = some host → host.onlineCpus = 0) →
    ¬ (0 < cpu.perCpuUsage.length ∧ cpu.perCpuUsage.length < UInt32.size) →
      cpu.onlineCpus = visible
  quota : 0 < settings.nanoCpus →
    cpu.limitCores =
      RawSample.toFloat settings.nanoCpus.toNat / RawSample.nanosPerCpu
  cpuset : settings.nanoCpus = 0 → ∀ count : Counter,
    told .cpuset = some count → 0 < count →
      cpu.limitCores = RawSample.toFloat count.toNat
  online : settings.nanoCpus = 0 →
    (∀ count : Counter, told .cpuset = some count → count = 0) →
      cpu.limitCores = RawSample.toFloat cpu.onlineCpus.toNat

end RawCpu

namespace AccountFile

/-- A sample after a file that belonged to it has stopped telling anything:
what the other files told before is still known, and so are the CPUs that a
program sees. -/
def lose (visible : UInt32) :
    {layout : GroupLayout} → AccountFile layout → Accounts layout →
      ResourceSettings → RawSample → RawSample
  | _, .hostCpu, told, settings, raw =>
      { raw with
        cpu := { raw.cpu.onCpus settings (told .cpuset)
          (RawSample.hostCpus visible ⟨0, 0⟩ raw.cpu.perCpuUsage) with
          systemUsage := 0 } }
  | _, .cpuset, _, settings, raw =>
      { raw with cpu := raw.cpu.onCpus settings none raw.cpu.onlineCpus }
  | _, .pidsCurrent, _, _, raw => { raw with pids := ⟨0, 0⟩ }
  | _, .pidsMax, _, _, raw => { raw with pids := ⟨0, 0⟩ }
  | _, .cpuTicks, _, _, raw =>
      { raw with cpu := { raw.cpu with userUsage := 0, kernelUsage := 0 } }
  | _, .throttling, _, _, raw =>
      { raw with
        cpu := { raw.cpu with
          throttlingPeriods := 0, throttledPeriods := 0, throttledNanos := 0 } }
  | _, .perCpuUsage, told, settings, raw =>
      let host : HostCpuUsage := (told .hostCpu).getD ⟨0, 0⟩
      { raw with
        cpu := { raw.cpu.onCpus settings (told .cpuset)
          (RawSample.hostCpus visible host []) with
          perCpuUsage := [] } }
  | _, .cpuUsage, _, _, raw =>
      { raw with cpu := { raw.cpu with totalUsage := 0 } }
  | _, .cpuShares, _, _, raw =>
      { raw with cpu := { raw.cpu with shares := 0 } }
  | _, .memoryStat, _, _, raw =>
      { raw with memory := { raw.memory with cache := 0, rss := 0 } }
  | _, .memoryLimit, _, _, raw =>
      { raw with memory := { raw.memory with usageLimit := 0 } }
  | _, .memoryUsage, _, _, raw =>
      { raw with memory := { raw.memory with fuzzUsage := 0 } }
  | _, .kernelUsage, _, _, raw =>
      { raw with memory := { raw.memory with kernelUsage := 0 } }
  | _, .softLimit, _, _, raw =>
      { raw with memory := { raw.memory with softLimit := 0 } }
  | _, .memoryAndSwapUsage, _, _, raw =>
      { raw with memory := { raw.memory with swapUsage := 0 } }
  | _, .memoryAndSwapLimit, _, _, raw =>
      { raw with memory := { raw.memory with swapLimit := 0 } }
  | _, .serviceBytes, _, _, raw =>
      { raw with blkio := { raw.blkio with serviceBytes := [] } }
  | _, .serviced, _, _, raw =>
      { raw with blkio := { raw.blkio with serviced := [] } }
  | _, .unifiedCpuStat, _, _, raw =>
      { raw with
        cpu := { raw.cpu with
          totalUsage := 0, userUsage := 0, kernelUsage := 0
          throttlingPeriods := 0, throttledPeriods := 0, throttledNanos := 0 } }
  | _, .unifiedMemoryStat, _, _, raw =>
      { raw with
        memory := { raw.memory with cache := 0, rss := 0, kernelUsage := 0 } }
  | _, .memoryCurrent, told, _, raw =>
      let swapCurrent : Counter := (told .swapCurrent).getD (0 : Counter)
      { raw with
        memory := { raw.memory with fuzzUsage := 0, swapUsage := swapCurrent } }
  | _, .memoryMax, told, _, raw =>
      let swapMax : Counter := (told .swapMax).getD (0 : Counter)
      { raw with
        memory := { raw.memory with usageLimit := 0, swapLimit := swapMax } }
  | _, .swapCurrent, _, _, raw =>
      { raw with
        memory := { raw.memory with swapUsage := raw.memory.fuzzUsage } }
  | _, .swapMax, _, _, raw =>
      { raw with
        memory := { raw.memory with swapLimit := raw.memory.usageLimit } }
  | _, .memoryLow, _, settings, raw =>
      { raw with
        memory := { raw.memory with softLimit := settings.memoryReservation } }
  | _, .ioStat, _, _, raw => { raw with blkio := ⟨[], []⟩ }

end AccountFile

namespace Accounts

variable {layout : GroupLayout} {firstVisible secondVisible : UInt32}
    {first second : Accounts layout} {inspection : Inspection}
    {firstTime secondTime : Time}
    {firstNetwork secondNetwork network : NetworkStat}

theorem sameIn_sample {part : SamplePart}
    (same : ∀ file, SamplePart.ofFile file = part → first file = second file)
    (sameCpus : part = .cpu → firstVisible = secondVisible)
    (sameNetwork : part = .network → firstNetwork = secondNetwork) :
    part.SameIn (first.sample firstVisible inspection firstTime firstNetwork)
      (second.sample secondVisible inspection secondTime secondNetwork) := by
  cases part with
  | cpu =>
      have visible := sameCpus rfl
      cases layout with
      | perController =>
          simp only [SamplePart.SameIn, sample, cpu, visible, same .hostCpu rfl,
            same .cpuset rfl, same .cpuTicks rfl, same .throttling rfl,
            same .perCpuUsage rfl, same .cpuUsage rfl, same .cpuShares rfl]
      | unified =>
          simp only [SamplePart.SameIn, sample, cpu, visible, same .hostCpu rfl,
            same .cpuset rfl, same .unifiedCpuStat rfl]
  | memory =>
      cases layout with
      | perController =>
          simp only [SamplePart.SameIn, sample, memory, same .memoryStat rfl,
            same .memoryLimit rfl, same .memoryUsage rfl, same .kernelUsage rfl,
            same .softLimit rfl, same .memoryAndSwapUsage rfl,
            same .memoryAndSwapLimit rfl]
      | unified =>
          simp only [SamplePart.SameIn, sample, memory,
            same .unifiedMemoryStat rfl, same .memoryCurrent rfl,
            same .memoryMax rfl, same .swapCurrent rfl, same .swapMax rfl,
            same .memoryLow rfl]
  | pids =>
      simp only [SamplePart.SameIn, sample, pids, same .pidsCurrent rfl,
        same .pidsMax rfl]
  | blkio =>
      cases layout with
      | perController =>
          simp only [SamplePart.SameIn, sample, blkio, same .serviceBytes rfl,
            same .serviced rfl]
      | unified =>
          simp only [SamplePart.SameIn, sample, blkio, same .ioStat rfl]
  | network => exact sameNetwork rfl

theorem sample_eq_lose {visible : UInt32} {file : AccountFile layout}
    (same : ∀ other, other ≠ file → second other = first other)
    (lost : second file = none) :
    second.sample visible inspection secondTime network =
      { file.lose visible first inspection.settings
          (first.sample visible inspection firstTime network) with
        time := secondTime } := by
  cases file
  case hostCpu | cpuset | pidsCurrent | pidsMax =>
    cases layout <;>
      simp [AccountFile.lose, sample, cpu, memory, pids, blkio, RawCpu.onCpus,
        same, lost]
  all_goals
    simp [AccountFile.lose, sample, cpu, memory, pids, blkio, RawCpu.onCpus,
      ticksToNanos, microsToNanos, UnifiedMemoryStat.kernelUsage, same, lost]

section Cpus

variable (visible : UInt32) (told : Accounts layout)
    (settings : ResourceSettings)

theorem onlineCpus_cpu :
    (told.cpu visible settings).onlineCpus =
      RawSample.hostCpus visible ((told .hostCpu).getD (⟨0, 0⟩ : HostCpuUsage))
        (told.cpu visible settings).perCpuUsage := by
  cases layout <;> rfl

theorem limitCores_cpu :
    (told.cpu visible settings).limitCores =
      RawSample.limitCores settings (told .cpuset)
        (told.cpu visible settings).onlineCpus := by
  cases layout <;> rfl

variable {told} in
theorem unlisted_onlineCpus
    (unlisted : ∀ host, told .hostCpu = some host → host.onlineCpus = 0) :
    ((told .hostCpu).getD (⟨0, 0⟩ : HostCpuUsage)).onlineCpus = 0 := by
  cases listed : told .hostCpu with
  | none => rfl
  | some host => exact unlisted host listed

theorem followsOrder_cpu :
    (told.cpu visible settings).FollowsOrder visible told settings where
  listed := by
    intro host told some
    simp [onlineCpus_cpu, RawSample.hostCpus, told, some]
  counted := by
    intro unlisted filled small
    simp [onlineCpus_cpu, RawSample.hostCpus, unlisted_onlineCpus unlisted,
      filled, small]
  visible := by
    intro unlisted uncounted
    simp [onlineCpus_cpu, RawSample.hostCpus, unlisted_onlineCpus unlisted,
      uncounted]
  quota := by
    intro some
    simp [limitCores_cpu, RawSample.limitCores, some]
  cpuset := by
    intro none count listed some
    simp [limitCores_cpu, RawSample.limitCores, none, listed, some]
  online := by
    intro none unlisted
    cases listed : told .cpuset with
    | none => simp [limitCores_cpu, RawSample.limitCores, none, listed]
    | some count =>
        simp [limitCores_cpu, RawSample.limitCores, none, listed,
          unlisted count listed]

end Cpus

end Accounts

namespace RawSample

section Pair

variable {layout : GroupLayout} {root : Path} {inspection : Inspection}
    {firstTime secondTime : Time} {first second : FileTree}
    {firstRaw secondRaw : RawSample}

/-- Two samples of a container, taken where the mount table and the
memberships are the same: a part whose files are the same is the same, and a
file that alone has stopped telling anything takes its own fields with it.  The
CPUs that a program sees matter to the CPU counters only. -/
theorem faults_stay_with_their_file
    (sameMounts : first.ShowSame second (MountTable.tablePath root))
    (sameMembership :
      first.ShowSame second (Membership.filePath root inspection.pid))
    (firstTaken :
      (fetch layout root firstTime inspection).found first = .ok firstRaw)
    (secondTaken :
      (fetch layout root secondTime inspection).found second =
        .ok secondRaw) :
    ∃ locations,
      (GroupLocations.resolve layout root inspection.pid).found first =
          .ok locations ∧
      (∀ part : SamplePart,
        (∀ path, part.Reads layout root inspection.pid locations path →
          first.ShowSame second path) →
        (part = .cpu → first.visibleCpus = second.visibleCpus) →
        part.SameIn firstRaw secondRaw) ∧
      (∀ file : AccountFile layout,
        (∀ other : AccountFile layout, other ≠ file →
          ∀ path, other.path? root locations = some path →
            first.ShowSame second path) →
        first.ShowSame second (networkPath root inspection.pid) →
        first.visibleCpus = second.visibleCpus →
        (file.told? root locations first).isSome →
        file.told? root locations second = none →
        secondRaw =
          { file.lose first.visibleCpus (first.accounts layout root locations)
              inspection.settings firstRaw with
            time := secondTime }) ∧
      firstRaw.cpu.FollowsOrder first.visibleCpus
        (first.accounts layout root locations)
        inspection.settings ∧
      secondRaw.cpu.FollowsOrder second.visibleCpus
        (second.accounts layout root locations)
        inspection.settings := by
  rcases (found_fetch_eq_ok_iff ..).1 firstTaken with
    ⟨-, locations, firstNetwork, located, firstCounted, rfl⟩
  rcases (found_fetch_eq_ok_iff ..).1 secondTaken with
    ⟨-, again, secondNetwork, relocated, secondCounted, rfl⟩
  have shared := GroupLocations.found_resolve_eq_ok_of_showSame sameMounts
    sameMembership located
  cases shared.symm.trans relocated
  have sameNetwork :
      first.ShowSame second (networkPath root inspection.pid) →
        firstNetwork = secondNetwork := by
    intro same
    have counted := found_readNetwork_eq_ok_of_showSame same firstCounted
    exact Except.ok.inj (counted.symm.trans secondCounted)
  refine ⟨locations, located, ?_, ?_, Accounts.followsOrder_cpu _ _ _,
    Accounts.followsOrder_cpu _ _ _⟩
  · intro part same sameCpus
    refine Accounts.sameIn_sample ?_ sameCpus ?_
    · intro file member
      exact AccountFile.told?_eq_of_showSame root locations fun path place =>
        same path (Or.inr ⟨file, member, place⟩)
    · intro network
      exact sameNetwork (same _ (Or.inl ⟨network, rfl⟩))
  · intro file same network sameCpus _ lost
    rw [← sameNetwork network, ← sameCpus]
    apply Accounts.sample_eq_lose
    · intro other different
      exact (AccountFile.told?_eq_of_showSame root locations
        (same other different)).symm
    · exact lost

end Pair

/-- A container in the unified hierarchy that uses memory and swap, on a host
with four CPUs that lists none. -/
def swappingContainer : FileTree :=
  let host := hostTree "cgroup2 /c cgroup2 rw" "0::/"
    [(["c"], .directory), (["memory.current", "c"], .file (Text.toBytes "9")),
      (["memory.swap.current", "c"], .file (Text.toBytes "5"))]
  { host with visibleCpus := 4 }

/-- The same container without its count of memory. -/
def uncountedMemory : FileTree :=
  swappingContainer.setEntry ["memory.current", "c"]
    (some (.file (Text.toBytes "nine")))

theorem swap_is_left_without_memory :
    ∃ firstRaw secondRaw,
      (fetch .unified ⟨"/"⟩ ⟨0⟩ processSeven).found swappingContainer =
          .ok firstRaw ∧
        (fetch .unified ⟨"/"⟩ ⟨1⟩ processSeven).found uncountedMemory =
          .ok secondRaw ∧
        secondRaw =
          { firstRaw with
            time := ⟨1⟩
            memory :=
              { firstRaw.memory with fuzzUsage := 0, swapUsage := 5 } } ∧
        secondRaw.cpu = firstRaw.cpu ∧ firstRaw.cpu.onlineCpus = 4 := by
  have located : (GroupLocations.resolve .unified ⟨"/"⟩
      processSeven.pid).found swappingContainer = .ok (.unified ⟨"/c/"⟩) := by
    rfl
  have firstIsOk : ((fetch .unified ⟨"/"⟩ ⟨0⟩ processSeven).found
      swappingContainer).isOk = true := by
    decide +kernel
  have secondIsOk : ((fetch .unified ⟨"/"⟩ ⟨1⟩ processSeven).found
      uncountedMemory).isOk = true := by
    decide +kernel
  rcases exists_ok_of_isOk firstIsOk with ⟨firstRaw, firstTaken⟩
  rcases exists_ok_of_isOk secondIsOk with ⟨secondRaw, secondTaken⟩
  have sameMounts : swappingContainer.ShowSame uncountedMemory
      (MountTable.tablePath ⟨"/"⟩) := by
    rfl
  have sameMembership : swappingContainer.ShowSame uncountedMemory
      (Membership.filePath ⟨"/"⟩ processSeven.pid) := by
    rfl
  rcases faults_stay_with_their_file sameMounts sameMembership
    firstTaken secondTaken with
    ⟨locations, found, parts, lost, order, -⟩
  cases located.symm.trans found
  have others : ∀ other : AccountFile .unified,
      other ≠ .memoryCurrent →
        ∀ path, other.path? ⟨"/"⟩ (.unified ⟨"/c/"⟩) = some path →
          swappingContainer.ShowSame uncountedMemory path := by
    intro other different path place
    cases other
    case memoryCurrent => exact absurd rfl different
    all_goals
      cases place
      rfl
  have fall := lost .memoryCurrent others rfl rfl (by decide +kernel)
    (by decide +kernel)
  have swap : (AccountFile.swapCurrent.told? ⟨"/"⟩
      (.unified ⟨"/c/"⟩) swappingContainer) = some (5 : Counter) := by
    decide +kernel
  have sameCpu : firstRaw.cpu = secondRaw.cpu := by
    refine parts .cpu ?_ (fun _ => rfl)
    rintro path (⟨network, -⟩ | ⟨file, member, place⟩)
    · cases network
    · refine others file ?_ path place
      rintro rfl
      cases member
  have unlisted : (AccountFile.hostCpu : AccountFile .unified).told? ⟨"/"⟩
      (.unified ⟨"/c/"⟩) swappingContainer = none := by
    decide +kernel
  have uncounted : firstRaw.cpu.perCpuUsage = [] := by
    rcases (found_fetch_eq_ok_iff ..).1 firstTaken with ⟨-, _, _, -, -, rfl⟩
    rfl
  have online : firstRaw.cpu.onlineCpus = 4 := by
    refine order.visible ?_ (by simp [uncounted])
    intro host told
    cases unlisted.symm.trans told
  refine ⟨firstRaw, secondRaw, firstTaken, secondTaken, ?_, sameCpu.symm,
    online⟩
  rw [fall]
  simp [AccountFile.lose, FileTree.accounts, swap]

end RawSample

end CgroupMeter
