import CgroupMeter.Proofs.Counter
import CgroupMeter.Proofs.Sampling.Effect
import CgroupMeter.Proofs.Sampling.History
import Mathlib.Algebra.Ring.Nat

/-!
# Throttled periods over a run

Each sample of a container reports the periods in which it was throttled since
the sample before.  Over a run of calls, the reports are the rises of the
count from one sample of the container to the next, whatever other containers
were sampled and whatever calls failed in between.  So they add up to all
rises, and for a count that never falls to its rise from the first sample to
the last, however many samples were taken.

The invariant is that the store holds the count of the last sample.  It is
kept by every outcome of a call but the one that drops the stored sample.
-/

namespace CgroupMeter.SamplingHistory

/-- What a sample tells of throttling. -/
structure Throttling where
  /-- The throttled periods that the raw sample counts. -/
  counted : Counter
  /-- The throttled periods that are reported. -/
  reported : Counter

/-- What a call tells of the throttling of a container, if it has sampled
it. -/
def Record.throttling? (key : String) (record : Record) : Option Throttling :=
  match record.call.circumstances.inspection,
    record.call.circumstances.raw, record.result with
  | .ok inspection, .ok raw, .ok sample =>
      if inspection.id.text = key then
        some ⟨raw.cpu.throttledPeriods, sample.cpu.throttledPeriods⟩
      else none
  | _, _, _ => none

theorem throttling?_error (key : String) (call : Call) (error : SamplingError) :
    Record.throttling? key ⟨call, .error error⟩ = none := by
  unfold Record.throttling?
  split
  · next succeeded => cases succeeded
  · rfl

theorem throttling?_ok {key : String} {call : Call} {inspection : Inspection}
    {raw : RawSample}
    (inspected : call.circumstances.inspection = .ok inspection)
    (fetched : call.circumstances.raw = .ok raw) (sample : MetricsSample) :
    Record.throttling? key ⟨call, .ok sample⟩ =
      if inspection.id.text = key then
        some ⟨raw.cpu.throttledPeriods, sample.cpu.throttledPeriods⟩
      else none := by
  simp only [Record.throttling?, inspected, fetched]

/-- What the samples of a container tell of throttling, in order. -/
def throttlings (key : String) (records : List Record) : List Throttling :=
  records.filterMap (Record.throttling? key)

/-- The counts of throttled periods in the raw samples of a container. -/
def counts (key : String) (records : List Record) : List Counter :=
  (throttlings key records).map Throttling.counted

/-- The throttled periods that the samples of a container report. -/
def reports (key : String) (records : List Record) : List Nat :=
  (throttlings key records).map fun told => told.reported.toNat

/-! ## Rises of a count -/

/-- Each count with the one after it. -/
def steps (counted : List Counter) : List (Counter × Counter) :=
  counted.zip counted.tail

/-- How much each of the later counts rose over the one before, nothing if it
fell. -/
def risesFrom (previous : Counter) (later : List Counter) : List Nat :=
  (steps (previous :: later)).map fun step => step.2.toNat - step.1.toNat

theorem steps_cons (previous first : Counter) (rest : List Counter) :
    steps (previous :: first :: rest) =
      (previous, first) :: steps (first :: rest) := rfl

theorem risesFrom_cons (previous first : Counter) (rest : List Counter) :
    risesFrom previous (first :: rest) =
      (first.toNat - previous.toNat) :: risesFrom first rest := rfl

/-- Rises add up to the rises alone: a fall adds nothing. -/
theorem sum_risesFrom (previous : Counter) (later : List Counter) :
    (risesFrom previous later).sum =
      (((steps (previous :: later)).filter fun step => step.1 < step.2).map
        fun step => step.2.toNat - step.1.toNat).sum := by
  induction later generalizing previous with
  | nil => rfl
  | cons first rest ih =>
      rw [risesFrom_cons, List.sum_cons, ih first, steps_cons]
      by_cases risen : previous < first
      · simp [risen]
      · have fallen : first.toNat - previous.toNat = 0 := by
          have less := UInt64.le_iff_toNat_le.1 (UInt64.not_lt.1 risen)
          omega
        simp [risen, fallen]

/-- Of a count that never falls, the rises add up to the whole rise. -/
theorem sum_risesFrom_of_pairwise {previous : Counter} {later : List Counter}
    (grows : (previous :: later).Pairwise (· ≤ ·)) :
    (risesFrom previous later).sum + previous.toNat =
      (later.getLastD previous).toNat := by
  induction later generalizing previous with
  | nil => simp [risesFrom, steps]
  | cons first rest ih =>
      have less := UInt64.le_iff_toNat_le.1
        (List.rel_of_pairwise_cons grows List.mem_cons_self)
      have whole := ih grows.of_cons
      rw [risesFrom_cons, List.sum_cons, List.getLastD_cons]
      omega

/-! ## What a call reports -/

/-- What is reported of a count, given the one that is held, if one is. -/
def reportOf (held : Option Counter) (count : Counter) : Nat :=
  match held with
  | none => 0
  | some previous => count.toNat - previous.toNat

/-- What is reported of counts, given the one that is held before them. -/
def reportsAfter (held : Option Counter) : List Counter → List Nat
  | [] => []
  | first :: rest => reportOf held first :: risesFrom first rest

theorem reportsAfter_some (previous : Counter) (later : List Counter) :
    reportsAfter (some previous) later = risesFrom previous later := by
  cases later <;> rfl

/-- No report is more than the count it is made for. -/
theorem reported_le_counted {previous : Option Counter}
    {told : List Throttling}
    (rises : (told.map fun each => each.reported.toNat) =
      reportsAfter previous (told.map Throttling.counted)) :
    ∀ each ∈ told, each.reported ≤ each.counted := by
  induction told generalizing previous with
  | nil => simp
  | cons first rest ih =>
      rcases List.cons.inj rises with ⟨now, later⟩
      rw [← reportsAfter_some] at later
      have bounded : first.reported.toNat ≤ first.counted.toNat := by
        rw [show first.reported.toNat = _ from now]
        cases previous with
        | none => exact Nat.zero_le _
        | some previous => exact Nat.sub_le _ _
      intro each member
      rcases List.mem_cons.1 member with rfl | other
      · exact UInt64.le_iff_toNat_le.2 bounded
      · exact ih later each other

theorem reported_derive (inspection : Inspection) (raw : RawSample)
    (previous : Option StoredSample) :
    (MetricsSample.derive inspection raw previous).cpu.throttledPeriods.toNat =
      reportOf (previous.map fun kept => kept.cpu.throttledPeriods)
        raw.cpu.throttledPeriods := by
  cases previous with
  | none => rfl
  | some previous => exact Counter.toNat_growth ..

section Runs

variable {Store : Type} [SampleStore Store] {key : String}

/-- The count of throttled periods that a store holds for a container. -/
def held (store : Store) (key : String) : Option Counter :=
  (SampleStore.find? store key).map fun kept => kept.cpu.throttledPeriods

theorem throttlings_makeCalls_cons (remembered : Duration) (call : Call)
    (rest : List Call) (store : Store) :
    throttlings key (makeCalls remembered (call :: rest) store).1 =
      ((makeCall remembered call store).1.throttling? key).toList ++
        throttlings key (makeCalls remembered rest
          (makeCall remembered call store).2).1 := by
  rw [makeCalls, throttlings]
  cases sampled : (makeCall remembered call store).1.throttling? key with
  | none => exact List.filterMap_cons_none sampled
  | some told => exact List.filterMap_cons_some sampled

variable [LawfulSampleStore Store]

/-- A call samples the container, reports what its count rose by and leaves it
in the store, or else leaves the count in the store as it was, unless it drops
it. -/
theorem throttling_outcome {remembered : Duration} {call : Call}
    {store after : Store} {result : Except SamplingError MetricsSample}
    (outcome : CallOutcome remembered call.circumstances store result after)
    (undropped : ¬ Record.Dropped ⟨call, result⟩ key) :
    (Record.throttling? key ⟨call, result⟩ = none ∧
        held after key = held store key) ∨
      ∃ told, Record.throttling? key ⟨call, result⟩ = some told ∧
        told.reported.toNat = reportOf (held store key) told.counted ∧
        held after key = some told.counted := by
  cases outcome with
  | expired inspection age inspected exited overdue erased =>
      have other : inspection.id.text ≠ key := fun same =>
        undropped ⟨inspection, age, inspected, same, erased, rfl⟩
      refine Or.inl ⟨throttling?_error .., ?_⟩
      rw [held, LawfulSampleStore.find?_erase, if_neg other, held]
  | sampled inspection raw inspected alive fetched found stored =>
      rw [throttling?_ok inspected fetched, held, LawfulSampleStore.find?_put]
      by_cases same : inspection.id.text = key
      · rw [if_pos same, if_pos same]
        refine Or.inr ⟨_, rfl, ?_, rfl⟩
        rw [reported_derive, same, held]
      · rw [if_neg same, if_neg same]
        exact Or.inl ⟨rfl, rfl⟩
  | _ => exact Or.inl ⟨throttling?_error .., rfl⟩

/-- In a run that does not drop the sample of a container, the reports are the
rises of its counts, starting from the one that the store holds. -/
theorem reports_makeCalls (remembered : Duration) (calls : List Call)
    (store : Store)
    (undropped : ∀ record ∈ (makeCalls remembered calls store).1,
      ¬ record.Dropped key) :
    reports key (makeCalls remembered calls store).1 =
      reportsAfter (held store key)
        (counts key (makeCalls remembered calls store).1) := by
  induction calls generalizing store with
  | nil => rfl
  | cons call rest ih =>
      simp only [makeCalls, List.mem_cons, forall_eq_or_imp] at undropped
      have later := ih (makeCall remembered call store).2 undropped.2
      rw [reports, counts, throttlings_makeCalls_cons]
      rcases throttling_outcome
          (call.circumstances.sample_outcome remembered call.name store)
          undropped.1 with
        ⟨silent, kept⟩ | ⟨told, sampled, reported, kept⟩
      · rw [show (makeCall remembered call store).1.throttling? key = none
          from silent, ← kept]
        exact later
      · rw [show (makeCall remembered call store).1.throttling? key = some told
          from sampled]
        refine congrArg₂ List.cons reported (later.trans ?_)
        rw [← reportsAfter_some]
        exact congrArg (reportsAfter · _) kept

end Runs

/-! ## Runs with fewer calls -/

section Fewer

variable {Store : Type} [SampleStore Store] {key : String}

/-- The count of throttled periods in the raw sample of a call that samples a
container. -/
def Call.count? (key : String) (call : Call) : Option Counter :=
  match call.circumstances.inspection with
  | .error _ => none
  | .ok inspection =>
      if inspection.status = .exited ∨ inspection.id.text ≠ key then none
      else
        match call.circumstances.raw, call.circumstances.findFault,
          call.circumstances.putFault with
        | .ok raw, none, none => some raw.cpu.throttledPeriods
        | _, _, _ => none

/-- What a call counts is no matter of the store. -/
theorem map_counted_throttling? {remembered : Duration} {call : Call}
    {store after : Store} {result : Except SamplingError MetricsSample}
    (outcome : CallOutcome remembered call.circumstances store result after) :
    (Record.throttling? key ⟨call, result⟩).map Throttling.counted =
      call.count? key := by
  cases outcome with
  | uninspected error inspected =>
      simp [throttling?_error, Call.count?, inspected]
  | unexpired inspection inspected exited recent =>
      simp [throttling?_error, Call.count?, inspected, exited]
  | expired inspection age inspected exited overdue erased =>
      simp [throttling?_error, Call.count?, inspected, exited]
  | expiredKept inspection age error inspected exited overdue fault =>
      simp [throttling?_error, Call.count?, inspected, exited]
  | unfetched inspection error inspected alive fetched =>
      simp [throttling?_error, Call.count?, inspected, fetched]
  | unfound inspection raw error inspected alive fetched fault =>
      simp [throttling?_error, Call.count?, inspected, fault]
  | unstored inspection raw error inspected alive fetched found fault =>
      simp [throttling?_error, Call.count?, inspected, fault]
  | sampled inspection raw inspected alive fetched found stored =>
      by_cases same : inspection.id.text = key <;>
        simp [throttling?_ok inspected fetched, Call.count?, inspected,
          fetched, found, stored, alive, same]

/-- The counts of a run are those of its calls. -/
theorem counts_makeCalls (remembered : Duration) (calls : List Call)
    (store : Store) :
    counts key (makeCalls remembered calls store).1 =
      calls.filterMap (Call.count? key) := by
  induction calls generalizing store with
  | nil => rfl
  | cons call rest ih =>
      have now : ((makeCall remembered call store).1.throttling? key).map
          Throttling.counted = call.count? key :=
        map_counted_throttling?
          (call.circumstances.sample_outcome remembered call.name store)
      have later := ih (makeCall remembered call store).2
      rw [List.filterMap_cons, ← now, ← later, counts,
        throttlings_makeCalls_cons]
      cases (makeCall remembered call store).1.throttling? key <;> rfl

/-- A call finds that a container ended too long ago, and drops its sample. -/
def Call.Drops (remembered : Duration) (key : String) (call : Call) : Prop :=
  ∃ inspection age, call.circumstances.inspection = .ok inspection ∧
    inspection.id.text = key ∧ call.circumstances.eraseFault = none ∧
    inspection.status = .exited ∧
    inspection.overdue? remembered call.circumstances.now = some age

/-- What a call drops is no matter of the store. -/
theorem dropped_iff {remembered : Duration} {call : Call}
    {store after : Store} {result : Except SamplingError MetricsSample}
    (outcome : CallOutcome remembered call.circumstances store result after) :
    Record.Dropped ⟨call, result⟩ key ↔ call.Drops remembered key := by
  constructor
  · rintro ⟨inspection, age, inspected, named, erased, expired⟩
    rcases (outcome.expired_iff _ _).1 expired with
      ⟨again, inspectedAgain, -, exited, overdue⟩
    cases inspected.symm.trans inspectedAgain
    exact ⟨inspection, age, inspected, named, erased, exited, overdue⟩
  · rintro ⟨inspection, age, inspected, named, erased, exited, overdue⟩
    exact ⟨inspection, age, inspected, named, erased,
      (outcome.expired_iff _ _).2 ⟨inspection, inspected, rfl, exited, overdue⟩⟩

/-- A run drops no sample of a container exactly when none of its calls
does. -/
theorem undropped_iff (remembered : Duration) (calls : List Call)
    (store : Store) :
    (∀ record ∈ (makeCalls remembered calls store).1,
        ¬ record.Dropped key) ↔
      ∀ call ∈ calls, ¬ call.Drops remembered key := by
  induction calls generalizing store with
  | nil => simp [makeCalls]
  | cons call rest ih =>
      have now : (makeCall remembered call store).1.Dropped key ↔
          call.Drops remembered key :=
        dropped_iff
          (call.circumstances.sample_outcome remembered call.name store)
      simp only [makeCalls, List.forall_mem_cons, now, ih]

end Fewer

section Sums

variable {Store : Type} [SampleStore Store] [LawfulSampleStore Store]
    {start : Store} {key : String} {remembered : Duration} {calls : List Call}
    {first last : Counter}

/-- The reports of a run that starts cold, in terms of its counts. -/
theorem reports_eq_rises (cold : SampleStore.find? start key = none)
    (undropped : ∀ record ∈ (makeCalls remembered calls start).1,
      ¬ record.Dropped key)
    {rest : List Counter}
    (counted : counts key (makeCalls remembered calls start).1 =
      first :: rest) :
    reports key (makeCalls remembered calls start).1 =
      0 :: risesFrom first rest := by
  rw [reports_makeCalls remembered calls start undropped, counted, held, cold]
  rfl

/-- The reports of a run that starts cold, of a count that never falls, add up
to its rise from the first sample to the last. -/
theorem sum_reports (cold : SampleStore.find? start key = none)
    (undropped : ∀ record ∈ (makeCalls remembered calls start).1,
      ¬ record.Dropped key)
    (starts : (counts key (makeCalls remembered calls start).1).head? =
      some first)
    (ends : (counts key (makeCalls remembered calls start).1).getLast? =
      some last)
    (grows : (counts key (makeCalls remembered calls start).1).Pairwise
      (· ≤ ·)) :
    (reports key (makeCalls remembered calls start).1).sum =
      last.toNat - first.toNat := by
  rcases List.head?_eq_some_iff.1 starts with ⟨rest, counted⟩
  rw [counted] at grows ends
  have whole := sum_risesFrom_of_pairwise grows
  rw [List.getLast?_cons, Option.some.injEq] at ends
  rw [reports_eq_rises cold undropped counted, List.sum_cons]
  rw [List.getLastD_eq_getLast?, ends] at whole
  omega

/-- The throttled periods that a run reports of a container, from a cold start
on and as long as its sample is not dropped: none for the first sample, and for
each later one what the count rose by since the one before.  They add up to all
rises.  For a count that never falls, they add up to its rise from the first
sample to the last, also in a run that leaves out samples in between. -/
theorem throttling_reports_add_up
    (cold : SampleStore.find? start key = none)
    (undropped : ∀ record ∈ (makeCalls remembered calls start).1,
      ¬ record.Dropped key)
    (starts : (counts key (makeCalls remembered calls start).1).head? =
      some first)
    (ends : (counts key (makeCalls remembered calls start).1).getLast? =
      some last) :
    let records := (makeCalls remembered calls start).1
    let rises := steps (counts key records)
    reports key records =
        0 :: (rises.map fun step => step.2.toNat - step.1.toNat) ∧
      (∀ told ∈ throttlings key records, told.reported ≤ told.counted) ∧
      (reports key records).sum =
        ((rises.filter fun step => step.1 < step.2).map
          fun step => step.2.toNat - step.1.toNat).sum ∧
      ((counts key records).Pairwise (· ≤ ·) →
        (reports key records).sum = last.toNat - first.toNat ∧
          ∀ fewer, fewer.Sublist calls →
            (counts key (makeCalls remembered fewer start).1).head? =
              some first →
            (counts key (makeCalls remembered fewer start).1).getLast? =
              some last →
            (reports key (makeCalls remembered fewer start).1).sum =
              (reports key records).sum) := by
  intro records rises
  rcases List.head?_eq_some_iff.1 starts with ⟨rest, counted⟩
  have told : reports key records = 0 :: risesFrom first rest :=
    reports_eq_rises cold undropped counted
  refine ⟨?_, ?_, ?_, ?_⟩
  · rw [told, risesFrom, ← counted]
  · exact reported_le_counted
      (reports_makeCalls remembered calls start undropped)
  · rw [told, List.sum_cons, sum_risesFrom, ← counted, Nat.zero_add]
  · intro grows
    have whole := sum_reports cold undropped starts ends grows
    refine ⟨whole, ?_⟩
    intro fewer among startsToo endsToo
    have undroppedToo : ∀ record ∈ (makeCalls remembered fewer start).1,
        ¬ record.Dropped key := by
      rw [undropped_iff] at undropped ⊢
      exact fun call member => undropped call (among.subset member)
    have growsToo :
        (counts key (makeCalls remembered fewer start).1).Pairwise
          (· ≤ ·) := by
      rw [counts_makeCalls] at grows ⊢
      exact grows.sublist (among.filterMap _)
    exact (sum_reports cold undroppedToo startsToo endsToo growsToo).trans
      whole.symm

end Sums

/-! ## A run with a gap -/

/-- Another container that runs. -/
def runningQueue : Inspection :=
  ⟨⟨"queue", by decide⟩, .running, 9, none, 0, ⟨0, 0, 0⟩⟩

/-- A call that samples a container with a count of throttled periods, on a
store that may refuse the new sample. -/
def sampleThrottled (inspection : Inspection) (periods : Counter)
    (putFault : Option StoreError) : Call :=
  ⟨inspection.id.text,
    ⟨.ok inspection,
      .ok { webSampleAt ⟨0⟩ 0 with
        cpu := ⟨0, 0, 0, [], 0, 1, 0, periods, 0, 0, 1⟩ },
      ⟨0⟩, none, putFault, none⟩⟩

theorem reports_of_interrupted_run :
    let sampleWeb := sampleThrottled runningWeb
    let calls := [sampleWeb 5 none, sampleWeb 6 (some .encode),
      sampleThrottled runningQueue 100 none, sampleWeb 7 none,
      sampleWeb 9 none]
    let fewer := [sampleWeb 5 none, sampleWeb 9 none]
    let run := fun calls =>
      (makeCalls ⟨0⟩ calls (KeyMap.empty : MemoryStore)).1
    reports "web" (run calls) = [0, 2, 2] ∧
      (reports "web" (run calls)).sum = 9 - 5 ∧
      (reports "web" (run fewer)).sum = (reports "web" (run calls)).sum := by
  intro sampleWeb calls fewer run
  have counted : counts "web" (run calls) = [5, 7, 9] := by
    rw [counts_makeCalls]
    rfl
  have countedFewer : counts "web" (run fewer) = [5, 9] := by
    rw [counts_makeCalls]
    rfl
  have undropped : ∀ record ∈ (run calls), ¬ record.Dropped "web" := by
    rw [undropped_iff]
    rintro call member ⟨inspection, _, inspected, -, -, exited, -⟩
    simp only [calls, List.mem_cons, List.not_mem_nil, or_false] at member
    rcases member with rfl | rfl | rfl | rfl | rfl <;>
      cases inspected <;> cases exited
  have starts : (counts "web" (run calls)).head? = some 5 := by
    rw [counted]
    rfl
  have ends : (counts "web" (run calls)).getLast? = some 9 := by
    rw [counted]
    rfl
  rcases throttling_reports_add_up rfl undropped starts ends with
    ⟨each, -, -, whole⟩
  rcases whole (by rw [counted]; decide) with ⟨total, fewerSame⟩
  refine ⟨?_, total, fewerSame fewer ?_ ?_ ?_⟩
  · rw [each, counted]
    rfl
  · exact .cons_cons _ (.cons _ (.cons _ (.cons _ (.cons_cons _ .slnil))))
  · rw [countedFewer]
    rfl
  · rw [countedFewer]
    rfl

end CgroupMeter.SamplingHistory
