import CgroupMeter.Proofs.Sampling.Outcome
import CgroupMeter.Proofs.Store.Lawful

/-!
# What a sample is compared with

Along any run of calls over a store that starts empty, a sampled container is
compared with its own last raw sample, unless its sample was dropped since:
the samples of other containers and the calls that fail leave no trace.

The run's records say what each call met and what it yielded.  The invariant
is that the store holds exactly what the records remember; every outcome of a
call keeps it, and the law for one sample is read off the moment before it.
-/

namespace CgroupMeter.SamplingHistory

/-- One call of the sampler in a run. -/
structure Call where
  name : String
  circumstances : Circumstances

/-- A call that was made, and what it yielded. -/
structure Record where
  call : Call
  result : Except SamplingError MetricsSample

section Runs

variable {Store : Type} [SampleStore Store]

/-- Make one call on a store. -/
def makeCall (remembered : Duration) (call : Call) (store : Store) :
    Record × Store :=
  let (result, after) :=
    call.circumstances.run (Sampling.sample remembered call.name) store
  (⟨call, result⟩, after.store)

/-- Make calls one after another, each on the store that the one before it
left. -/
def makeCalls (remembered : Duration) :
    List Call → Store → List Record × Store
  | [], store => ([], store)
  | call :: rest, store =>
      let (record, after) := makeCall remembered call store
      let (records, last) := makeCalls remembered rest after
      (record :: records, last)

end Runs

namespace Record

/-- The call sampled the container with a key, and this is what is kept of
its raw sample. -/
def Sampled (record : Record) (key : String) (kept : StoredSample) : Prop :=
  ∃ inspection raw sample,
    record.call.circumstances.inspection = .ok inspection ∧
      inspection.id.text = key ∧
      record.call.circumstances.raw = .ok raw ∧
      kept = ⟨raw.time, raw.cpu⟩ ∧
      record.result = .ok sample

/-- The call found that the container with a key had ended too long ago, and
dropped its sample. -/
def Dropped (record : Record) (key : String) : Prop :=
  ∃ inspection age,
    record.call.circumstances.inspection = .ok inspection ∧
      inspection.id.text = key ∧
      record.call.circumstances.eraseFault = none ∧
      record.result = .error (.expired inspection.id age)

end Record

/-- Some call of a history sampled the container with a key, this is what is
kept of its raw sample, and no call since sampled that container or dropped
its sample. -/
def Remembers (history : List Record) (key : String) (kept : StoredSample) :
    Prop :=
  ∃ before record after,
    history = before ++ record :: after ∧
      record.Sampled key kept ∧
      ∀ later ∈ after, (∀ other, ¬ later.Sampled key other) ∧ ¬ later.Dropped key

theorem not_remembers_nil (key : String) (kept : StoredSample) :
    ¬ Remembers [] key kept := by
  rintro ⟨before, record, after, split, -⟩
  simp at split

/-- A record found in a history with one more record is the last one, or is
found in the history before it. -/
theorem split_append_singleton {history before after : List Record}
    {record found : Record}
    (split : history ++ [record] = before ++ found :: after) :
    (after = [] ∧ history = before ∧ record = found) ∨
      ∃ front, after = front ++ [record] ∧ history = before ++ found :: front := by
  rcases List.eq_nil_or_concat after with rfl | ⟨front, last, rfl⟩
  · have parts := List.append_inj' split rfl
    exact Or.inl ⟨rfl, parts.1, by simpa using parts.2⟩
  · have regrouped :
        history ++ [record] = (before ++ found :: front) ++ [last] := by
      simpa [List.concat_eq_append] using split
    have parts := List.append_inj' regrouped rfl
    obtain rfl : record = last := by simpa using parts.2
    exact Or.inr ⟨front, List.concat_eq_append, parts.1⟩

/-- After a sample of a container, that sample is remembered and no other. -/
theorem remembers_sampled_iff {history : List Record} {record : Record}
    {key : String} {sampled kept : StoredSample}
    (sampledNow : record.Sampled key sampled) :
    Remembers (history ++ [record]) key kept ↔ kept = sampled := by
  constructor
  · rintro ⟨before, found, after, split, foundSampled, untouched⟩
    rcases split_append_singleton split with
      ⟨-, -, rfl⟩ | ⟨front, rfl, -⟩
    · rcases sampledNow with ⟨_, raw, _, -, -, fetched, rfl, -⟩
      rcases foundSampled with ⟨_, again, _, -, -, fetchedAgain, rfl, -⟩
      rw [fetched] at fetchedAgain
      cases fetchedAgain
      rfl
    · exact absurd sampledNow ((untouched record (by simp)).1 sampled)
  · rintro rfl
    exact ⟨history, record, [], rfl, sampledNow, by simp⟩

/-- After its sample was dropped, nothing of a container is remembered. -/
theorem not_remembers_dropped {history : List Record} {record : Record}
    {key : String} {kept : StoredSample} (dropped : record.Dropped key) :
    ¬ Remembers (history ++ [record]) key kept := by
  rintro ⟨before, found, after, split, foundSampled, untouched⟩
  rcases split_append_singleton split with ⟨-, -, rfl⟩ | ⟨front, rfl, -⟩
  · rcases foundSampled with ⟨_, _, _, -, -, -, -, succeeded⟩
    rcases dropped with ⟨_, _, -, -, -, failed⟩
    rw [failed] at succeeded
    cases succeeded
  · exact (untouched record (by simp)).2 dropped

/-- A call that neither samples a container nor drops its sample changes
nothing of what is remembered of it. -/
theorem remembers_untouched_iff {history : List Record} {record : Record}
    {key : String} {kept : StoredSample}
    (notSampled : ∀ other, ¬ record.Sampled key other)
    (notDropped : ¬ record.Dropped key) :
    Remembers (history ++ [record]) key kept ↔ Remembers history key kept := by
  constructor
  · rintro ⟨before, found, after, split, foundSampled, untouched⟩
    rcases split_append_singleton split with ⟨-, -, rfl⟩ | ⟨front, rfl, rest⟩
    · exact absurd foundSampled (notSampled kept)
    · refine ⟨before, found, front, rest, foundSampled, ?_⟩
      intro later member
      exact untouched later (by simp [member])
  · rintro ⟨before, found, after, rfl, foundSampled, untouched⟩
    refine ⟨before, found, after ++ [record], by simp, foundSampled, ?_⟩
    intro later member
    rcases List.mem_append.1 member with earlier | now
    · exact untouched later earlier
    · obtain rfl : later = record := by simpa using now
      exact ⟨notSampled, notDropped⟩

/-! ## The invariant -/

section Runs

variable {Store : Type} [SampleStore Store]

/-- A store holds exactly what a history remembers. -/
def Holds (store : Store) (history : List Record) : Prop :=
  ∀ key kept,
    SampleStore.find? store key = some kept ↔ Remembers history key kept

theorem holds_nil {store : Store}
    (empty : ∀ key, SampleStore.find? store key = none) :
    Holds store [] := by
  intro key kept
  rw [empty key]
  simp [not_remembers_nil]

/-- A call that neither samples nor drops anything keeps the invariant, if it
leaves the store as it was. -/
theorem Holds.untouched {store : Store} {history : List Record}
    (holds : Holds store history) {record : Record}
    (notSampled : ∀ key other, ¬ record.Sampled key other)
    (notDropped : ∀ key, ¬ record.Dropped key) :
    Holds store (history ++ [record]) := by
  intro key kept
  rw [remembers_untouched_iff (notSampled key) (notDropped key)]
  exact holds key kept

variable [LawfulSampleStore Store]

theorem Holds.sampled {store : Store} {history : List Record}
    (holds : Holds store history) {call : Call} {inspection : Inspection}
    {raw : RawSample} (sample : MetricsSample)
    (inspected : call.circumstances.inspection = .ok inspection)
    (fetched : call.circumstances.raw = .ok raw) (now : Time) :
    Holds (SampleStore.put store now inspection.id.text raw.stored)
      (history ++ [⟨call, .ok sample⟩]) := by
  intro key kept
  rw [LawfulSampleStore.find?_put]
  by_cases same : inspection.id.text = key
  · have sampledNow : Record.Sampled ⟨call, .ok sample⟩ key raw.stored :=
      ⟨inspection, raw, sample, inspected, same, fetched, rfl, rfl⟩
    rw [remembers_sampled_iff sampledNow, if_pos same]
    constructor
    · intro found
      exact (Option.some.inj found).symm
    · intro equal
      rw [equal]
  · have notSampled : ∀ other, ¬ Record.Sampled ⟨call, .ok sample⟩ key other := by
      rintro other ⟨again, _, _, inspectedAgain, named, -⟩
      rw [inspected] at inspectedAgain
      cases inspectedAgain
      exact same named
    have notDropped : ¬ Record.Dropped ⟨call, .ok sample⟩ key := by
      rintro ⟨_, _, -, -, -, failed⟩
      cases failed
    rw [remembers_untouched_iff notSampled notDropped, if_neg same]
    exact holds key kept

theorem Holds.dropped {store : Store} {history : List Record}
    (holds : Holds store history) {call : Call} {inspection : Inspection}
    (age : Duration)
    (inspected : call.circumstances.inspection = .ok inspection)
    (erased : call.circumstances.eraseFault = none) :
    Holds (SampleStore.erase store inspection.id.text)
      (history ++ [⟨call, .error (.expired inspection.id age)⟩]) := by
  intro key kept
  rw [LawfulSampleStore.find?_erase]
  by_cases same : inspection.id.text = key
  · have droppedNow :
        Record.Dropped ⟨call, .error (.expired inspection.id age)⟩ key :=
      ⟨inspection, age, inspected, same, erased, rfl⟩
    rw [if_pos same]
    simp [not_remembers_dropped droppedNow]
  · have notSampled : ∀ other,
        ¬ Record.Sampled ⟨call, .error (.expired inspection.id age)⟩ key other := by
      rintro other ⟨_, _, _, -, -, -, -, succeeded⟩
      cases succeeded
    have notDropped :
        ¬ Record.Dropped ⟨call, .error (.expired inspection.id age)⟩ key := by
      rintro ⟨again, _, inspectedAgain, named, -⟩
      rw [inspected] at inspectedAgain
      cases inspectedAgain
      exact same named
    rw [remembers_untouched_iff notSampled notDropped, if_neg same]
    exact holds key kept

/-- Every way in which a call can end keeps the invariant. -/
theorem Holds.outcome {store after : Store} {history : List Record}
    (holds : Holds store history) {remembered : Duration} {call : Call}
    {result : Except SamplingError MetricsSample}
    (outcome : CallOutcome remembered call.circumstances store result after) :
    Holds after (history ++ [⟨call, result⟩]) := by
  -- A sample needs a result, and a drop needs an erasure that went through.
  have failed (error : SamplingError)
      (unexpired : ∀ id age, error = .expired id age →
        call.circumstances.eraseFault ≠ none) :
      Holds store (history ++ [⟨call, .error error⟩]) := by
    refine holds.untouched ?_ ?_
    · rintro key other ⟨_, _, _, -, -, -, -, succeeded⟩
      cases succeeded
    · rintro key ⟨inspection, age, -, -, erased, expired⟩
      exact unexpired inspection.id age (Except.error.inj expired) erased
  cases outcome with
  | uninspected error inspected => exact failed _ (by simp)
  | unexpired inspection inspected exited recent => exact failed _ (by simp)
  | expired inspection age inspected exited overdue erased =>
      exact holds.dropped age inspected erased
  | expiredKept inspection age error inspected exited overdue fault =>
      exact failed _ (by simp [fault])
  | unfetched inspection error inspected alive fetched =>
      exact failed _ (by simp)
  | unfound inspection raw error inspected alive fetched fault =>
      exact failed _ (by simp)
  | unstored inspection raw error inspected alive fetched found fault =>
      exact failed _ (by simp)
  | sampled inspection raw inspected alive fetched found stored =>
      exact holds.sampled _ inspected fetched call.circumstances.now

theorem Holds.makeCall {store : Store} {history : List Record}
    (holds : Holds store history) (remembered : Duration) (call : Call) :
    Holds (SamplingHistory.makeCall remembered call store).2
      (history ++ [(SamplingHistory.makeCall remembered call store).1]) :=
  holds.outcome (call.circumstances.sample_outcome remembered call.name store)

/-- In a run, every call is made on a store that holds what the history and
the records before it remember. -/
theorem Holds.makeCalls {remembered : Duration} {calls : List Call}
    {store : Store} {history : List Record} (holds : Holds store history)
    {earlier later : List Record} {record : Record}
    (split : (SamplingHistory.makeCalls remembered calls store).1 =
      earlier ++ record :: later) :
    ∃ reached : Store, Holds reached (history ++ earlier) ∧
      record = (SamplingHistory.makeCall remembered record.call reached).1 := by
  induction calls generalizing store history earlier with
  | nil => simp [SamplingHistory.makeCalls] at split
  | cons call rest ih =>
      simp only [SamplingHistory.makeCalls] at split
      cases earlier with
      | nil =>
          rcases List.cons.inj split with ⟨rfl, -⟩
          exact ⟨store, by simpa using holds, rfl⟩
      | cons first earlier =>
          rcases List.cons.inj split with ⟨rfl, rest⟩
          rcases ih (holds.makeCall remembered call) rest with
            ⟨reached, holdsThen, made⟩
          refine ⟨reached, ?_, made⟩
          simpa using holdsThen

/-- Along any run of calls on a store that starts empty, a container that is
sampled is compared with what its records remember: its last sample, unless
that was dropped since. -/
theorem sample_eq_derive_remembered {start : Store}
    (empty : ∀ key, SampleStore.find? start key = none)
    {remembered : Duration} {calls : List Call}
    {earlier later : List Record} {record : Record}
    (split : (makeCalls remembered calls start).1 =
      earlier ++ record :: later)
    {sample : MetricsSample} (sampled : record.result = .ok sample) :
    ∃ inspection raw previous,
      record.call.circumstances.inspection = .ok inspection ∧
        record.call.circumstances.raw = .ok raw ∧
        sample = .derive inspection raw previous ∧
        ∀ kept, previous = some kept ↔
          Remembers earlier inspection.id.text kept := by
  rcases (holds_nil empty).makeCalls split with ⟨reached, holds, made⟩
  have outcome :=
    record.call.circumstances.sample_outcome remembered record.call.name reached
  have result :
      (record.call.circumstances.run
        (Sampling.sample remembered record.call.name) reached).1 =
          .ok sample := by
    rw [made] at sampled
    exact sampled
  rw [result] at outcome
  generalize (record.call.circumstances.run
    (Sampling.sample remembered record.call.name) reached).2.store = after
    at outcome
  cases outcome with
  | sampled inspection raw inspected alive fetched found stored =>
      refine ⟨inspection, raw, SampleStore.find? reached inspection.id.text,
        inspected, fetched, rfl, ?_⟩
      intro kept
      exact holds inspection.id.text kept

end Runs

/-! ## A run of three calls -/

/-- A container that runs. -/
def runningWeb : Inspection :=
  ⟨⟨"web", by decide⟩, .running, 7, none, 0, ⟨0, 0, 0⟩⟩

/-- A raw sample of it, taken at a time with a count of CPU time. -/
def webSampleAt (time : Time) (used : Counter) : RawSample :=
  { containerId := runningWeb.id
    time
    cpu := ⟨used, 0, 0, [], 0, 1, 0, 0, 0, 0, 1⟩
    memory := default
    pids := default
    blkio := default
    network := default }

/-- A call that samples it, on a store that may refuse the new sample. -/
def sampleWeb (raw : RawSample) (putFault : Option StoreError) : Call :=
  ⟨"7", ⟨.ok runningWeb, .ok raw, raw.time, none, putFault, none⟩⟩

/-- A sample that could not be stored is not compared with: the third call is
compared with the first. -/
theorem third_sample_compares_with_first :
    let first := sampleWeb (webSampleAt ⟨0⟩ 10) none
    let refused := sampleWeb (webSampleAt ⟨5⟩ 20) (some .encode)
    let third := sampleWeb (webSampleAt ⟨9⟩ 30) none
    ∃ sample : MetricsSample,
      (makeCalls ⟨0⟩ [first, refused, third] (KeyMap.empty : MemoryStore)).1 =
        [⟨first, .ok (.derive runningWeb (webSampleAt ⟨0⟩ 10) none)⟩,
          ⟨refused, .error (.store .encode)⟩, ⟨third, .ok sample⟩] ∧
      sample = .derive runningWeb (webSampleAt ⟨9⟩ 30)
        (some (webSampleAt ⟨0⟩ 10).stored) := by
  intro first refused third
  have records :
      (makeCalls ⟨0⟩ [first, refused, third] (KeyMap.empty : MemoryStore)).1 =
        [⟨first, .ok (.derive runningWeb (webSampleAt ⟨0⟩ 10) none)⟩,
          ⟨refused, .error (.store .encode)⟩] ++
        ⟨third, .ok (.derive runningWeb (webSampleAt ⟨9⟩ 30)
          (some (webSampleAt ⟨0⟩ 10).stored))⟩ :: [] := rfl
  rcases sample_eq_derive_remembered (fun _ => rfl) records rfl with
    ⟨inspection, raw, previous, inspected, fetched, derived, law⟩
  cases inspected
  cases fetched
  refine ⟨_, records, derived.trans ?_⟩
  have remembered :
      Remembers
        [⟨first, .ok (.derive runningWeb (webSampleAt ⟨0⟩ 10) none)⟩,
          ⟨refused, .error (.store .encode)⟩]
        "web" (webSampleAt ⟨0⟩ 10).stored := by
    refine ⟨[], _, _, rfl, ⟨_, _, _, rfl, rfl, rfl, rfl, rfl⟩, ?_⟩
    intro later member
    obtain rfl := List.mem_singleton.1 member
    constructor
    · rintro other ⟨_, _, _, -, -, -, -, succeeded⟩
      cases succeeded
    · rintro ⟨_, _, -, -, -, expired⟩
      cases expired
  rw [(law _).2 remembered]

end CgroupMeter.SamplingHistory
