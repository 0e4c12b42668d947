import CgroupMeter.Metrics.Sample
import CgroupMeter.Proofs.Counter
import CgroupMeter.Proofs.Sample.Faults
import CgroupMeter.Proofs.Sample.Fetchable

/-!
# Swap metrics where swap is not counted

The files that count swap exist only where swap accounting is on.  A file that
does not exist counts zero, and whether swap metrics are shown is told from the
counters alone.  With a hierarchy for each controller the zero stands beside
the memory in use, so nothing is shown as long as memory is in use and counted.
In the unified hierarchy the memory in use is added to the zero first, so
swap metrics are always shown: those of memory without swap.
-/

namespace CgroupMeter

/-- The files that count swap. -/
def AccountFile.swapFiles : (layout : GroupLayout) → List (AccountFile layout)
  | .perController => [.memoryAndSwapUsage, .memoryAndSwapLimit]
  | .unified => [.swapCurrent, .swapMax]

namespace MemoryMetrics

/-- All of the swap metrics are there, or none of them is. -/
structure SwapWhole (metrics : MemoryMetrics) : Prop where
  usage : metrics.swapUsage = metrics.swap.map SwapMetrics.usage
  swappedOut : metrics.swappedOut = metrics.swap.map SwapMetrics.swappedOut
  limitPercent :
    metrics.swapLimitPercent = metrics.swap.map SwapMetrics.limitPercent

/-- What is shown of swap where no file counts it. -/
def UncountedSwap (root : Path) (locations : GroupLocations) (tree : FileTree)
    (metrics : MemoryMetrics) : GroupLayout → Prop
  | .perController =>
      (metrics.swap = none ↔
        ∃ inUse : Counter, inUse ≠ 0 ∧
          AccountFile.memoryUsage.told? root locations tree = some inUse) ∧
        ∀ swap, metrics.swap = some swap →
          swap = ⟨metrics.usage, 0, RateNumber.ofNat 0⟩
  | .unified =>
      metrics.swap = some ⟨metrics.usage, 0, metrics.usagePercent⟩

/-- The swap metrics of a sample. -/
def swapOf (raw : RawMemory) : Option SwapMetrics :=
  if raw.fuzzUsage ≤ raw.swapUsage then
    let swappedOut := raw.swapUsage - raw.fuzzUsage
    let usage := Counter.add raw.rss swappedOut
    some
      ⟨usage, swappedOut, RateNumber.percentOf usage (shownLimit raw.swapLimit)⟩
  else none

/-- The metrics of a sample are those of memory, with those of swap put in. -/
theorem ofRaw_eq (raw : RawMemory) :
    ofRaw raw =
      { withoutSwap raw with
        swapUsage := (swapOf raw).map SwapMetrics.usage
        swappedOut := (swapOf raw).map SwapMetrics.swappedOut
        swapLimitPercent := (swapOf raw).map SwapMetrics.limitPercent } := by
  unfold ofRaw swapOf
  split <;> rfl

theorem ofRaw_swap (raw : RawMemory) : (ofRaw raw).swap = swapOf raw := by
  rw [ofRaw_eq, swap]
  cases swapOf raw <;> rfl

theorem swapWhole_ofRaw (raw : RawMemory) : (ofRaw raw).SwapWhole where
  usage := by rw [ofRaw_swap, ofRaw_eq]
  swappedOut := by rw [ofRaw_swap, ofRaw_eq]
  limitPercent := by rw [ofRaw_swap, ofRaw_eq]

theorem ofRaw_usage (raw : RawMemory) : (ofRaw raw).usage = raw.rss := by
  rw [ofRaw_eq]
  rfl

theorem ofRaw_usagePercent (raw : RawMemory) :
    (ofRaw raw).usagePercent =
      RateNumber.percentOf raw.rss (shownLimit raw.usageLimit) := by
  rw [ofRaw_eq]
  rfl

theorem ofRaw_swapLimit (raw : RawMemory) :
    (ofRaw raw).swapLimit = shownLimit raw.swapLimit := by
  rw [ofRaw_eq]
  rfl

/-- Where the combined counters are zero, swap metrics are shown for a memory
that is not in use. -/
theorem swapOf_of_zero {raw : RawMemory} (usage : raw.swapUsage = 0)
    (limit : raw.swapLimit = 0) :
    swapOf raw =
      if raw.fuzzUsage = 0 then some ⟨raw.rss, 0, RateNumber.ofNat 0⟩
      else none := by
  have unlimited : shownLimit 0 = 0 := by decide
  by_cases idle : raw.fuzzUsage = 0
  · simp [swapOf, usage, limit, idle, unlimited, RateNumber.percentOf]
  · simp [swapOf, usage, idle]

/-- Where the combined counters are those of memory, the swap metrics are
those of memory. -/
theorem swapOf_of_memory {raw : RawMemory}
    (usage : raw.swapUsage = raw.fuzzUsage)
    (limit : raw.swapLimit = raw.usageLimit) :
    swapOf raw = some ⟨raw.rss, 0,
      RateNumber.percentOf raw.rss (shownLimit raw.usageLimit)⟩ := by
  simp [swapOf, usage, limit]

end MemoryMetrics

theorem Accounts.swapOf_perController (told : Accounts .perController)
    (settings : ResourceSettings) (usage : told .memoryAndSwapUsage = none)
    (limit : told .memoryAndSwapLimit = none) :
    MemoryMetrics.swapOf (told.memory settings) =
      if (told .memoryUsage).getD (0 : Counter) = 0 then
        some ⟨(told.memory settings).rss, 0, RateNumber.ofNat 0⟩
      else none := by
  refine MemoryMetrics.swapOf_of_zero ?_ ?_
  · simp [memory, usage]
  · simp [memory, limit]

theorem Accounts.swapOf_unified (told : Accounts .unified)
    (settings : ResourceSettings) (usage : told .swapCurrent = none)
    (limit : told .swapMax = none) :
    MemoryMetrics.swapOf (told.memory settings) =
      some ⟨(told.memory settings).rss, 0,
        RateNumber.percentOf (told.memory settings).rss
          (MemoryMetrics.shownLimit (told.memory settings).usageLimit)⟩ := by
  refine MemoryMetrics.swapOf_of_memory ?_ ?_
  · simp [memory, usage]
  · simp [memory, limit]

theorem Accounts.sample_memory {layout : GroupLayout} (visible : UInt32)
    (told : Accounts layout) (inspection : Inspection) (time : Time)
    (network : NetworkStat) :
    (told.sample visible inspection time network).memory =
      told.memory inspection.settings := rfl

theorem MetricsSample.derive_memory (inspection : Inspection) (raw : RawSample)
    (previous : Option StoredSample) :
    (derive inspection raw previous).memory = MemoryMetrics.ofRaw raw.memory :=
  rfl

namespace RawSample

/-- What a sample shows of swap when the files that count it do not exist. -/
theorem swap_without_accounting {layout : GroupLayout} {root : Path}
    {time : Time} {inspection : Inspection} {tree : FileTree} {raw : RawSample}
    (taken : (fetch layout root time inspection).found tree = .ok raw)
    {locations : GroupLocations}
    (located : (GroupLocations.resolve layout root inspection.pid).found tree =
      .ok locations)
    (off : ∀ file ∈ AccountFile.swapFiles layout,
      file.Absent root locations tree)
    (previous : Option StoredSample) :
    let metrics := (MetricsSample.derive inspection raw previous).memory
    MemoryMetrics.UncountedSwap root locations tree metrics layout ∧
      metrics.SwapWhole := by
  rcases (found_fetch_eq_ok_iff ..).1 taken with
    ⟨-, again, network, relocated, -, rfl⟩
  cases located.symm.trans relocated
  have silent : ∀ file ∈ AccountFile.swapFiles layout,
      file.told? root locations tree = none := fun file member =>
    AccountFile.told?_eq_none_of_absent root locations tree (off file member)
  refine ⟨?_, MemoryMetrics.swapWhole_ofRaw _⟩
  rw [MetricsSample.derive_memory, Accounts.sample_memory]
  cases layout with
  | perController =>
      have shown := Accounts.swapOf_perController
        (tree.accounts .perController root locations) inspection.settings
        (silent .memoryAndSwapUsage List.mem_cons_self)
        (silent .memoryAndSwapLimit (by simp [AccountFile.swapFiles]))
      constructor
      · rw [MemoryMetrics.ofRaw_swap, shown, FileTree.accounts]
        cases AccountFile.memoryUsage.told? root locations tree <;> simp
      · intro swap counted
        rw [MemoryMetrics.ofRaw_swap, shown] at counted
        split at counted
        · rw [MemoryMetrics.ofRaw_usage]
          exact (Option.some.inj counted).symm
        · cases counted
  | unified =>
      have shown := Accounts.swapOf_unified
        (tree.accounts .unified root locations) inspection.settings
        (silent .swapCurrent List.mem_cons_self)
        (silent .swapMax (by simp [AccountFile.swapFiles]))
      rw [MemoryMetrics.UncountedSwap, MemoryMetrics.ofRaw_swap, shown,
        MemoryMetrics.ofRaw_usage, MemoryMetrics.ofRaw_usagePercent]

/-- A container in the unified hierarchy that has files for memory and none
for swap. -/
def swaplessContainer : FileTree :=
  hostTree "cgroup2 /c cgroup2 rw" "0::/"
    [(["c"], .directory),
      (["memory.stat", "c"], .file (Text.toBytes "anon 4")),
      (["memory.current", "c"], .file (Text.toBytes "9"))]

theorem swaplessContainer_shows_swap :
    ∃ raw, (fetch .unified ⟨"/"⟩ ⟨0⟩ processSeven).found swaplessContainer =
        .ok raw ∧
      ∀ previous : Option StoredSample,
        let metrics := (MetricsSample.derive processSeven raw previous).memory
        metrics.swapUsage = some 4 ∧ metrics.swappedOut = some 0 ∧
          metrics.swapLimitPercent = some metrics.usagePercent := by
  have isOk : ((fetch .unified ⟨"/"⟩ ⟨0⟩ processSeven).found
      swaplessContainer).isOk = true := by
    decide +kernel
  have located : (GroupLocations.resolve .unified ⟨"/"⟩
      processSeven.pid).found swaplessContainer = .ok (.unified ⟨"/c/"⟩) := by
    rfl
  have off : ∀ file ∈ AccountFile.swapFiles .unified,
      file.Absent ⟨"/"⟩ (.unified ⟨"/c/"⟩) swaplessContainer := by
    intro file member path place
    simp only [AccountFile.swapFiles, List.mem_cons, List.not_mem_nil,
      or_false] at member
    rcases member with rfl | rfl
    · cases place
      decide +kernel
    · cases place
      decide +kernel
  rcases exists_ok_of_isOk isOk with ⟨raw, taken⟩
  refine ⟨raw, taken, ?_⟩
  intro previous metrics
  rcases swap_without_accounting taken located off previous with
    ⟨shown, whole⟩
  have resident : (((fetch .unified ⟨"/"⟩ ⟨0⟩ processSeven).found
      swaplessContainer).map fun raw => raw.memory.rss).toOption = some 4 := by
    decide +kernel
  rw [taken] at resident
  have usage : metrics.usage = 4 :=
    (MemoryMetrics.ofRaw_usage _).trans (Option.some.inj resident)
  have swap : metrics.swap = some ⟨4, 0, metrics.usagePercent⟩ := by
    rw [← usage]
    exact shown
  exact ⟨by rw [whole.usage, swap]; rfl, by rw [whole.swappedOut, swap]; rfl,
    by rw [whole.limitPercent, swap]; rfl⟩

end RawSample

end CgroupMeter
