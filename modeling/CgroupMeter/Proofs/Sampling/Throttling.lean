import CgroupMeter.Proofs.Sample.Fetchable
import CgroupMeter.Proofs.Sampling.Effect
import CgroupMeter.Proofs.Sampling.History

/-!
# Throttling over cycles that cannot be read

A container is sampled in one cycle after another, and in some of them the
file that counts its throttled periods cannot be used.  Such a cycle counts
none, and this is what the next cycle is compared with.  The periods reported
in a cycle are therefore those since the last cycle that could be read only
where that one comes directly before; after a gap the whole count is reported
anew.
-/

namespace CgroupMeter

/-- The throttled periods that the files tell, if they can be used. -/
def Accounts.throttled? : {layout : GroupLayout} → Accounts layout →
    Option Counter
  | .perController, told =>
      (told .throttling).map ThrottlingStat.throttledPeriods
  | .unified, told =>
      (told .unifiedCpuStat).map UnifiedCpuStat.throttledPeriods

theorem Accounts.throttledPeriods_cpu {layout : GroupLayout}
    (visible : UInt32) (told : Accounts layout) (settings : ResourceSettings) :
    (told.cpu visible settings).throttledPeriods = told.throttled?.getD 0 := by
  cases layout with
  | perController =>
      cases read : told .throttling <;>
        simp [Accounts.cpu, Accounts.throttled?, read]
  | unified =>
      cases read : told .unifiedCpuStat <;>
        simp [Accounts.cpu, Accounts.throttled?, read]

/-- One cycle of sampling a container. -/
structure ThrottlingCycle where
  inspection : Inspection
  /-- The files of the host. -/
  tree : FileTree
  /-- When the raw sample is taken. -/
  time : Time
  /-- When it is stored. -/
  now : Time
  /-- The kernel's count of periods in which the container was throttled. -/
  throttled : Counter

namespace ThrottlingCycle

variable (layout : GroupLayout) (root : Path)

/-- The sample that is taken in a cycle. -/
def taken (cycle : ThrottlingCycle) : Except FetchError RawSample :=
  (RawSample.fetch layout root cycle.time cycle.inspection).found cycle.tree

/-- The throttled periods that can be read in a cycle, if they can. -/
def read? (cycle : ThrottlingCycle) : Option Counter :=
  match (GroupLocations.resolve layout root cycle.inspection.pid).found
      cycle.tree with
  | .error _ => none
  | .ok locations =>
      (cycle.tree.accounts layout root locations).throttled?

/-- The call that samples the container in a cycle, over a store without
faults. -/
def call (name : String) (cycle : ThrottlingCycle) : SamplingHistory.Call where
  name := name
  circumstances :=
    { inspection := .ok cycle.inspection
      raw := cycle.taken layout root
      now := cycle.now
      findFault := none
      putFault := none
      eraseFault := none }

/-- A cycle in which a running container is sampled, in full or in part.  What
is read of its throttling is the kernel's count. -/
structure Samples (id : ContainerId) (cycle : ThrottlingCycle) : Prop where
  named : cycle.inspection.id = id
  alive : cycle.inspection.status ≠ .exited
  fetched : ∃ raw, cycle.taken layout root = .ok raw
  honest : ∀ count, cycle.read? layout root = some count →
    count = cycle.throttled

variable {layout root}

theorem throttledPeriods_taken {cycle : ThrottlingCycle} {raw : RawSample}
    (fetched : cycle.taken layout root = .ok raw) :
    raw.cpu.throttledPeriods = (cycle.read? layout root).getD 0 := by
  rcases (RawSample.found_fetch_eq_ok_iff ..).1 fetched with
    ⟨-, locations, network, located, -, rfl⟩
  simp [read?, located, Accounts.sample, Accounts.throttledPeriods_cpu]

section Runs

variable {Store : Type} [SampleStore Store] {id : ContainerId}
    {cycle previous : ThrottlingCycle}

/-- A cycle compares its sample with the stored one and stores it. -/
theorem makeCall_eq (samples : cycle.Samples layout root id) {raw : RawSample}
    (fetched : cycle.taken layout root = .ok raw) (remembered : Duration)
    (name : String) (store : Store) :
    SamplingHistory.makeCall remembered (cycle.call layout root name) store =
      (⟨cycle.call layout root name,
        .ok (.derive cycle.inspection raw
          (SampleStore.find? store id.text))⟩,
        SampleStore.put store cycle.now id.text raw.stored) := by
  have sampled : (cycle.call layout root name).circumstances.Samples
      cycle.inspection raw :=
    ⟨rfl, samples.alive, fetched, rfl, rfl⟩
  rcases ((cycle.call layout root name).circumstances.sample_outcome remembered
    (cycle.call layout root name).name store).of_samples sampled with
    ⟨result, after⟩
  rw [← samples.named]
  exact Prod.ext (congrArg (SamplingHistory.Record.mk _) result) after

/-- A cycle that follows another one reports what has been counted since, where
a cycle that could not be read has counted none. -/
theorem reported_after [LawfulSampleStore Store] (remembered : Duration)
    (name : String) {cycles before later : List ThrottlingCycle}
    (samples : ∀ cycle ∈ cycles, cycle.Samples layout root id)
    (split : cycles = before ++ previous :: cycle :: later) (start : Store) :
    ∃ sample : MetricsSample,
      (SamplingHistory.makeCalls remembered
          (cycles.map (call layout root name)) start).1[before.length + 1]? =
        some ⟨cycle.call layout root name, .ok sample⟩ ∧
      sample.cpu.throttledPeriods =
        Counter.growth ((previous.read? layout root).getD 0)
          ((cycle.read? layout root).getD 0) := by
  induction before generalizing cycles start with
  | nil =>
      subst split
      have samplesPrevious := samples previous (by simp)
      have samplesCycle := samples cycle (by simp)
      rcases samplesPrevious.fetched with ⟨raw, fetched⟩
      rcases samplesCycle.fetched with ⟨next, fetchedNext⟩
      refine ⟨.derive cycle.inspection next (some raw.stored), ?_, ?_⟩
      · simp [SamplingHistory.makeCalls, makeCall_eq samplesPrevious fetched,
          makeCall_eq samplesCycle fetchedNext, LawfulSampleStore.find?_put]
      · simp [MetricsSample.derive, CpuMetrics.derive, CpuMetrics.ofGrowth,
          RawCpu.growthSince, RawSample.stored,
          throttledPeriods_taken fetched, throttledPeriods_taken fetchedNext]
  | cons first before ih =>
      subst split
      have samplesFirst := samples first (by simp)
      rcases samplesFirst.fetched with ⟨raw, fetched⟩
      rcases ih (fun cycle member => samples cycle (by simp [member])) rfl
        (SampleStore.put start first.now id.text raw.stored) with
        ⟨sample, reported, counted⟩
      refine ⟨sample, ?_, counted⟩
      simpa [SamplingHistory.makeCalls, makeCall_eq samplesFirst fetched]
        using reported

/-- What is reported in a cycle, given the last earlier cycle that could be
read and the gap of unread cycles between the two.  It is at most the growth
of the kernel's count since then exactly when the cycle cannot be read itself,
there is no gap, or nothing had been counted by then. -/
theorem reported_since_last_read [LawfulSampleStore Store]
    (remembered : Duration) (name : String)
    {cycles earlier gap later : List ThrottlingCycle} {last : ThrottlingCycle}
    (samples : ∀ cycle ∈ cycles, cycle.Samples layout root id)
    (grows : cycles.Pairwise fun before after =>
      before.throttled ≤ after.throttled)
    (split : cycles = earlier ++ last :: gap ++ cycle :: later)
    (read : (last.read? layout root).isSome)
    (unread : ∀ between ∈ gap, between.read? layout root = none)
    (start : Store) :
    ∃ sample : MetricsSample,
      (SamplingHistory.makeCalls remembered
          (cycles.map (call layout root name)) start).1[
            (earlier ++ last :: gap).length]? =
        some ⟨cycle.call layout root name, .ok sample⟩ ∧
      sample.cpu.throttledPeriods.toNat =
        (if cycle.read? layout root = none then 0
        else if gap = [] then cycle.throttled.toNat - last.throttled.toNat
        else cycle.throttled.toNat) ∧
      (sample.cpu.throttledPeriods.toNat ≤
          cycle.throttled.toNat - last.throttled.toNat ↔
        cycle.read? layout root = none ∨ gap = [] ∨ last.throttled = 0) := by
  have grown : last.throttled.toNat ≤ cycle.throttled.toNat := by
    rw [split, List.pairwise_append] at grows
    exact UInt64.le_iff_toNat_le.1
      (grows.2.2 last (by simp) cycle (by simp))
  have zero_iff : last.throttled = 0 ↔ last.throttled.toNat = 0 :=
    UInt64.toNat_inj.symm
  have counted : ∀ count, cycle.read? layout root = some count →
      count = cycle.throttled :=
    (samples cycle (by simp [split])).honest
  rcases Option.isSome_iff_exists.1 read with ⟨count, lastRead⟩
  obtain rfl := (samples last (by simp [split])).honest count lastRead
  rcases List.eq_nil_or_concat gap with rfl | ⟨front, previous, rfl⟩
  · -- The last cycle that was read is the one before.
    rcases reported_after remembered name samples (by simpa using split)
      start with
      ⟨sample, reported, value⟩
    refine ⟨sample, by simpa using reported, ?_⟩
    cases now : cycle.read? layout root with
    | none => simp [value, lastRead, now]
    | some count =>
        obtain rfl := counted count now
        simp [value, lastRead, now]
  · have previousUnread := unread previous (by simp)
    have adjacent :
        cycles = (earlier ++ last :: front) ++ previous :: cycle :: later := by
      simpa using split
    rcases reported_after remembered name samples adjacent start with
      ⟨sample, reported, value⟩
    refine ⟨sample, by simpa [Nat.add_assoc] using reported, ?_⟩
    cases now : cycle.read? layout root with
    | none => simp [value, previousUnread, now]
    | some count =>
        obtain rfl := counted count now
        simp [value, previousUnread, now, zero_iff]
        omega

end Runs

/-! ## A cycle that could not be read -/

/-- A container in the unified hierarchy with some throttling file. -/
def throttledHost (stat : Option Entry) : FileTree :=
  (RawSample.hostTree "cgroup2 /c cgroup2 rw" "0::/"
    [(["c"], .directory)]).setEntry ["cpu.stat", "c"] stat

/-- A cycle of that container, which has been throttled five times. -/
def fifthThrottling (stat : Option Entry) (nanos : Int) : ThrottlingCycle :=
  ⟨RawSample.processSeven, throttledHost stat, ⟨nanos⟩, ⟨nanos⟩, 5⟩

theorem samples_fifthThrottling {stat : Option Entry} {nanos : Int}
    (fetched : ((fifthThrottling stat nanos).taken .unified ⟨"/"⟩).isOk =
      true)
    (honest : (fifthThrottling stat nanos).read? .unified ⟨"/"⟩ = none ∨
      (fifthThrottling stat nanos).read? .unified ⟨"/"⟩ = some 5) :
    (fifthThrottling stat nanos).Samples .unified ⟨"/"⟩
      RawSample.processSeven.id where
  named := rfl
  alive := nofun
  fetched := exists_ok_of_isOk fetched
  honest := by
    intro count told
    rcases honest with unread | five
    · cases unread.symm.trans told
    · cases five.symm.trans told
      rfl

theorem throttling_out_of_nothing :
    let told : Option Entry := some (.file (Text.toBytes "nr_throttled 5"))
    let third := fifthThrottling told 2
    ∃ sample : MetricsSample,
      (SamplingHistory.makeCalls ⟨0⟩
          ([fifthThrottling told 0, fifthThrottling none 1, third].map
            (call .unified ⟨"/"⟩ "7")) (KeyMap.empty : MemoryStore)).1[2]? =
        some ⟨third.call .unified ⟨"/"⟩ "7", .ok sample⟩ ∧
      sample.cpu.throttledPeriods.toNat = 5 ∧
      ¬ sample.cpu.throttledPeriods.toNat ≤ 5 - 5 := by
  intro told third
  have samples : ∀ cycle ∈ [fifthThrottling told 0, fifthThrottling none 1,
      third], cycle.Samples .unified ⟨"/"⟩ RawSample.processSeven.id := by
    intro cycle member
    simp only [List.mem_cons, List.not_mem_nil, or_false] at member
    rcases member with rfl | rfl | rfl
    · exact samples_fifthThrottling (by decide +kernel)
        (Or.inr (by decide +kernel))
    · exact samples_fifthThrottling (by decide +kernel)
        (Or.inl (by decide +kernel))
    · exact samples_fifthThrottling (by decide +kernel)
        (Or.inr (by decide +kernel))
  have thirdRead : third.read? .unified ⟨"/"⟩ = some 5 := by
    decide +kernel
  have split : [fifthThrottling told 0, fifthThrottling none 1, third] =
      [] ++ fifthThrottling told 0 :: [fifthThrottling none 1] ++
        third :: [] := rfl
  rcases reported_since_last_read ⟨0⟩ "7" samples (by decide) split
    (by decide +kernel)
    (by
      intro between member
      obtain rfl := List.mem_singleton.1 member
      decide +kernel)
    (KeyMap.empty : MemoryStore) with
    ⟨sample, reported, value, -⟩
  have five : sample.cpu.throttledPeriods.toNat = 5 := by
    rw [value, thirdRead]
    rfl
  exact ⟨sample, reported, five, by simp [five]⟩

end ThrottlingCycle

end CgroupMeter
