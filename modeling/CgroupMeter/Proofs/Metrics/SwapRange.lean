import CgroupMeter.Metrics.Json
import CgroupMeter.Proofs.Counter
import CgroupMeter.Proofs.Metrics.Swap

/-!
# Swap metrics stay in range

What is swapped out is the difference of two counters.  Where each controller
has a hierarchy both are read.  In the unified hierarchy the combined one is a
sum, which stops at the largest counter, so the difference is what is swapped
out unless the sum has stopped.  Limits that are added stop as well, above what
counts as no limit.  No difference and no sum ever wraps.
-/

namespace CgroupMeter

/-- The first line of an accounting file is a word. -/
def AccountFile.Says {layout : GroupLayout} (root : Path)
    (locations : GroupLocations) (tree : FileTree) (file : AccountFile layout)
    (word : String) : Prop :=
  ∃ path lines, file.path? root locations = some path ∧
    tree.linesAt path = .ok lines ∧ SingleValue.firstLine lines = .ok word

/-- The files whose limits are added. -/
def AccountFile.addedLimits : (layout : GroupLayout) → List (AccountFile layout)
  | .perController => []
  | .unified => [.memoryMax, .swapMax]

namespace Accounts

/-- The anonymous memory that the files tell. -/
def resident : {layout : GroupLayout} → Accounts layout → Counter
  | .perController, told =>
      ((told .memoryStat).map ControllerMemoryStat.anonymous).getD 0
  | .unified, told =>
      ((told .unifiedMemoryStat).map UnifiedMemoryStat.anonymous).getD 0

/-- The exact limit of memory and swap together that the files tell. -/
def combinedLimit : {layout : GroupLayout} → Accounts layout → Nat
  | .perController, told =>
      ((told .memoryAndSwapLimit).getD (0 : Counter)).toNat
  | .unified, told =>
      ((told .swapMax).getD (0 : Counter)).toNat +
        ((told .memoryMax).getD (0 : Counter)).toNat

/-- What the files tell to be swapped out is what is shown, if something is. -/
def SwappedOut : {layout : GroupLayout} → Accounts layout →
    Option SwapMetrics → Prop
  | .perController, told, swap =>
      let memory : Counter := (told .memoryUsage).getD (0 : Counter)
      let combined : Counter := (told .memoryAndSwapUsage).getD (0 : Counter)
      (swap.isSome ↔ memory ≤ combined) ∧
        ∀ shown, swap = some shown →
          shown.swappedOut.toNat + memory.toNat = combined.toNat
  | .unified, told, swap =>
      let memory : Counter := (told .memoryCurrent).getD (0 : Counter)
      let swapped : Counter := (told .swapCurrent).getD (0 : Counter)
      swap.isSome ∧
        ∀ shown, swap = some shown →
          shown.swappedOut.toNat =
              min swapped.toNat (Counter.bound - memory.toNat) ∧
            (swapped.toNat + memory.toNat ≤ Counter.bound →
              shown.swappedOut = swapped)

end Accounts

namespace MemoryMetrics

/-- What is written under a name. -/
def written? (metrics : MemoryMetrics) (name : String) : Option WrittenJson :=
  match metrics.toJson with
  | .object members => Json.member? members name
  | _ => none

/-- The names of swap metrics. -/
def swapNames : List String :=
  ["swap_usage_bytes", "swap_only_usage_bytes", "swap_limit_usage_percent"]

/-- From this number on, which is half the largest signed number of 64 bits, a
limit is no limit. -/
def noLimit : Nat := 9223372036854775807 / 2

/-- Swap metrics are made from what the files tell, in exact numbers that stop
at the largest counter. -/
structure SwapExact (layout : GroupLayout) (root : Path)
    (locations : GroupLocations) (tree : FileTree)
    (metrics : MemoryMetrics) : Prop where
  whole : metrics.SwapWhole
  together : ∀ name ∈ swapNames,
    (metrics.written? name).isSome = metrics.swap.isSome
  written :
    metrics.written? "swap_usage_bytes" =
        metrics.swap.map (fun shown => Json.ofUInt64 shown.usage) ∧
      metrics.written? "swap_only_usage_bytes" =
        metrics.swap.map (fun shown => Json.ofUInt64 shown.swappedOut) ∧
      metrics.written? "swap_limit_bytes" =
        some (Json.ofUInt64 metrics.swapLimit)
  swappedOut : (tree.accounts layout root locations).SwappedOut metrics.swap
  usage : ∀ shown, metrics.swap = some shown →
    let resident := (tree.accounts layout root locations).resident
    shown.usage.toNat =
        min Counter.bound (resident.toNat + shown.swappedOut.toNat) ∧
      resident ≤ shown.usage
  unlimited : metrics.swapLimit = 0 ↔
    (tree.accounts layout root locations).combinedLimit = 0 ∨
      noLimit ≤ (tree.accounts layout root locations).combinedLimit
  limited : metrics.swapLimit ≠ 0 → metrics.swapLimit.toNat =
    (tree.accounts layout root locations).combinedLimit
  unlimitedSum : ∀ file ∈ AccountFile.addedLimits layout,
    file.Says root locations tree "max" → metrics.swapLimit = 0

/-! ## One record of memory counters -/

section Written

variable {metrics : MemoryMetrics}

theorem written?_isSome (whole : metrics.SwapWhole) {name : String}
    (named : name ∈ swapNames) :
    (metrics.written? name).isSome = metrics.swap.isSome := by
  simp only [swapNames, List.mem_cons, List.not_mem_nil, or_false] at named
  rcases named with rfl | rfl | rfl <;>
    cases shown : metrics.swap <;>
      simp [written?, toJson, whole.usage, whole.swappedOut,
        whole.limitPercent, shown, Json.optionalMember, Json.member?]

theorem written?_counters (whole : metrics.SwapWhole) :
    metrics.written? "swap_usage_bytes" =
        metrics.swap.map (fun shown => Json.ofUInt64 shown.usage) ∧
      metrics.written? "swap_only_usage_bytes" =
        metrics.swap.map (fun shown => Json.ofUInt64 shown.swappedOut) ∧
      metrics.written? "swap_limit_bytes" =
        some (Json.ofUInt64 metrics.swapLimit) := by
  cases shown : metrics.swap <;>
    simp [written?, toJson, whole.usage, whole.swappedOut,
      whole.limitPercent, shown, Json.optionalMember, Json.member?]

end Written

section Raw

variable {raw : RawMemory} {shown : SwapMetrics}

theorem isSome_swapOf_iff :
    (swapOf raw).isSome ↔ raw.fuzzUsage ≤ raw.swapUsage := by
  by_cases counted : raw.fuzzUsage ≤ raw.swapUsage <;> simp [swapOf, counted]

/-- What is shown as swapped out is an exact difference. -/
theorem swappedOut_of_swapOf (found : swapOf raw = some shown) :
    shown.swappedOut.toNat + raw.fuzzUsage.toNat = raw.swapUsage.toNat := by
  have counted : raw.fuzzUsage ≤ raw.swapUsage :=
    isSome_swapOf_iff.1 (by rw [found]; rfl)
  rw [swapOf, if_pos counted] at found
  cases found
  have less := UInt64.le_iff_toNat_le.1 counted
  rw [UInt64.toNat_sub_of_le _ _ counted]
  omega

/-- The usage that is shown is a sum that stops at the largest counter. -/
theorem usage_of_swapOf (found : swapOf raw = some shown) :
    shown.usage.toNat =
        min Counter.bound (raw.rss.toNat + shown.swappedOut.toNat) ∧
      raw.rss ≤ shown.usage := by
  have sum : shown.usage = Counter.add raw.rss shown.swappedOut := by
    unfold swapOf at found
    split at found
    · cases found
      rfl
    · cases found
  have small := Counter.toNat_le_bound raw.rss
  rw [sum, UInt64.le_iff_toNat_le, Counter.toNat_add]
  exact ⟨Nat.min_comm .., by omega⟩

/-- A limit that is shown is the exact one, and none is shown for no limit. -/
theorem shownLimit_of_clamped {limit : Counter} {told : Nat}
    (clamped : limit.toNat = min told Counter.bound) :
    (shownLimit limit = 0 ↔ told = 0 ∨ noLimit ≤ told) ∧
      (shownLimit limit ≠ 0 → (shownLimit limit).toNat = told) := by
  have most : noLimit < Counter.bound := by decide
  have unlimited : unlimitedFrom ≤ limit ↔ noLimit ≤ limit.toNat :=
    UInt64.le_iff_toNat_le
  have zero : limit = 0 ↔ limit.toNat = 0 := UInt64.toNat_inj.symm
  -- What is clamped is beyond every limit, so a limit that is shown is not.
  unfold shownLimit
  split
  · next large =>
      have beyond := unlimited.1 large
      constructor
      · exact iff_of_true rfl (by omega)
      · exact fun wrong => absurd rfl wrong
  · next small =>
      have within := mt unlimited.2 small
      constructor
      · rw [zero]
        omega
      · intro _
        omega

end Raw

end MemoryMetrics

/-! ## What the files tell -/

theorem SingleValue.read_of_firstLine_max {lines : Lines}
    (first : firstLine lines = .ok "max") :
    read lines = .ok Counter.largest := by
  rw [read, first]
  rfl

namespace Accounts

theorem memory_rss {layout : GroupLayout} (told : Accounts layout)
    (settings : ResourceSettings) :
    (told.memory settings).rss = told.resident := by
  cases layout with
  | perController =>
      cases stat : told .memoryStat <;> simp [memory, resident, stat]
  | unified =>
      cases stat : told .unifiedMemoryStat <;> simp [memory, resident, stat]

/-- The combined limit is the exact one, at most the largest counter. -/
theorem toNat_memory_swapLimit {layout : GroupLayout} (told : Accounts layout)
    (settings : ResourceSettings) :
    (told.memory settings).swapLimit.toNat =
      min told.combinedLimit Counter.bound := by
  cases layout with
  | perController =>
      exact (Nat.min_eq_left (Counter.toNat_le_bound _)).symm
  | unified => exact Counter.toNat_add ..

theorem swappedOut_swapOf {layout : GroupLayout} (told : Accounts layout)
    (settings : ResourceSettings) :
    told.SwappedOut (MemoryMetrics.swapOf (told.memory settings)) := by
  cases layout with
  | perController =>
      exact ⟨MemoryMetrics.isSome_swapOf_iff, fun shown found =>
        MemoryMetrics.swappedOut_of_swapOf found⟩
  | unified =>
      have small := Counter.toNat_le_bound
        ((told .memoryCurrent).getD (0 : Counter))
      constructor
      · refine MemoryMetrics.isSome_swapOf_iff.2 (UInt64.le_iff_toNat_le.2 ?_)
        simp only [memory, Counter.toNat_add]
        omega
      · intro shown found
        have sum := MemoryMetrics.swappedOut_of_swapOf found
        simp only [memory, Counter.toNat_add] at sum
        exact ⟨by omega, fun fits => Counter.eq_of_toNat (by omega)⟩

/-- A sum of limits that one file tells to be none is no limit. -/
theorem noLimit_le_combinedLimit {layout : GroupLayout} {root : Path}
    {locations : GroupLocations} {tree : FileTree} {file : AccountFile layout}
    (added : file ∈ AccountFile.addedLimits layout)
    (said : file.Says root locations tree "max") :
    MemoryMetrics.noLimit ≤
      (tree.accounts layout root locations).combinedLimit := by
  have most : MemoryMetrics.noLimit ≤ Counter.largest.toNat := by decide
  rcases said with ⟨path, lines, place, opened, first⟩
  cases layout with
  | perController => cases added
  | unified =>
      simp only [AccountFile.addedLimits, List.mem_cons, List.not_mem_nil,
        or_false] at added
      simp only [combinedLimit]
      rcases added with rfl | rfl
      all_goals
        simp only [FileTree.accounts, AccountFile.told?, place, opened,
          AccountFile.parse, SingleValue.read_of_firstLine_max first,
          Except.toOption, Option.bind_some, Option.getD_some]
        omega

end Accounts

namespace RawSample

/-- Swap metrics of a sample are exact and stop at the largest counter. -/
theorem swap_arithmetic_in_range {layout : GroupLayout} {root : Path}
    {time : Time} {inspection : Inspection} {tree : FileTree} {raw : RawSample}
    (taken : (fetch layout root time inspection).found tree = .ok raw)
    {locations : GroupLocations}
    (located : (GroupLocations.resolve layout root inspection.pid).found tree =
      .ok locations)
    (previous : Option StoredSample) :
    MemoryMetrics.SwapExact layout root locations tree
      (MetricsSample.derive inspection raw previous).memory := by
  rcases (found_fetch_eq_ok_iff ..).1 taken with
    ⟨-, again, network, relocated, -, rfl⟩
  cases located.symm.trans relocated
  rw [MetricsSample.derive_memory, Accounts.sample_memory]
  have limits := MemoryMetrics.shownLimit_of_clamped
    (Accounts.toNat_memory_swapLimit (tree.accounts layout root locations)
      inspection.settings)
  have whole := MemoryMetrics.swapWhole_ofRaw
    ((tree.accounts layout root locations).memory inspection.settings)
  rw [← MemoryMetrics.ofRaw_swapLimit] at limits
  constructor
  case whole => exact whole
  case together =>
    exact fun name named => MemoryMetrics.written?_isSome whole named
  case written => exact MemoryMetrics.written?_counters whole
  case swappedOut =>
    rw [MemoryMetrics.ofRaw_swap]
    exact Accounts.swappedOut_swapOf _ _
  case usage =>
    intro shown found
    rw [MemoryMetrics.ofRaw_swap] at found
    rw [← Accounts.memory_rss _ inspection.settings]
    exact MemoryMetrics.usage_of_swapOf found
  case unlimited => exact limits.1
  case limited => exact limits.2
  case unlimitedSum =>
    intro file added said
    exact limits.1.2 (.inr (Accounts.noLimit_le_combinedLimit added said))

/-- A container in the unified hierarchy with as much swap as can be counted. -/
def overfullContainer : FileTree :=
  hostTree "cgroup2 /c cgroup2 rw" "0::/"
    [(["c"], .directory),
      (["memory.stat", "c"], .file (Text.toBytes "anon 4")),
      (["memory.current", "c"], .file (Text.toBytes "10")),
      (["memory.max", "c"], .file (Text.toBytes "max")),
      (["memory.swap.current", "c"],
        .file (Text.toBytes "18446744073709551615")),
      (["memory.swap.max", "c"], .file (Text.toBytes "5"))]

theorem overfullContainer_swap_in_range :
    ∃ raw, (fetch .unified ⟨"/"⟩ ⟨0⟩ processSeven).found overfullContainer =
        .ok raw ∧
      ∀ previous : Option StoredSample,
        let metrics := (MetricsSample.derive processSeven raw previous).memory
        metrics.swapLimit = 0 ∧
          ∃ shown, metrics.swap = some shown ∧
            shown.swappedOut.toNat = Counter.bound - 10 ∧
            shown.usage.toNat = Counter.bound - 6 := by
  have isOk : ((fetch .unified ⟨"/"⟩ ⟨0⟩ processSeven).found
      overfullContainer).isOk = true := by
    decide +kernel
  have located : (GroupLocations.resolve .unified ⟨"/"⟩
      processSeven.pid).found overfullContainer = .ok (.unified ⟨"/c/"⟩) := by
    rfl
  have current : AccountFile.memoryCurrent.told? ⟨"/"⟩ (.unified ⟨"/c/"⟩)
      overfullContainer = some (10 : Counter) := by
    decide +kernel
  have swapped : AccountFile.swapCurrent.told? ⟨"/"⟩ (.unified ⟨"/c/"⟩)
      overfullContainer = some Counter.largest := by
    decide +kernel
  have resident : (overfullContainer.accounts .unified ⟨"/"⟩
      (.unified ⟨"/c/"⟩)).resident = 4 := by
    decide +kernel
  have unlimited : AccountFile.memoryMax.Says ⟨"/"⟩ (.unified ⟨"/c/"⟩)
      overfullContainer "max" :=
    ⟨_, _, rfl, rfl, by decide +kernel⟩
  rcases exists_ok_of_isOk isOk with ⟨raw, taken⟩
  refine ⟨raw, taken, ?_⟩
  intro previous metrics
  have inRange := swap_arithmetic_in_range taken located previous
  refine ⟨inRange.unlimitedSum .memoryMax List.mem_cons_self unlimited, ?_⟩
  rcases inRange.swappedOut with ⟨counted, difference⟩
  rcases Option.isSome_iff_exists.1 counted with ⟨shown, found⟩
  have sum := (inRange.usage shown found).1
  have swappedOut := (difference shown found).1
  simp only [FileTree.accounts, current, swapped, Option.getD_some]
    at swappedOut
  rw [resident, swappedOut] at sum
  exact ⟨shown, found, swappedOut, sum⟩

end RawSample

end CgroupMeter
