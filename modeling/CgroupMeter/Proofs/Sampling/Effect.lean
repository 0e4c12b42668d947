import CgroupMeter.Proofs.Program.Within
import CgroupMeter.Proofs.Sampling.Outcome
import CgroupMeter.Proofs.Store.Lawful

/-!
# What one call leaves in its store

A call of the sampler changes what is stored under the key of its own
container, or nothing at all: a sample is stored when it was taken, and dropped
when its container has ended for too long.  A step that fails leaves the store
as it was, and the steps after it are not asked for.

What a call leaves is read off the outcomes of `sample_outcome`.  What it asks
for is a matter of the sampling program, under the answers that the
circumstances of the call can give.
-/

namespace CgroupMeter

/-- A request is one to look up a stored sample. -/
def SamplingRequest.isFind : SamplingRequest → Bool
  | .find _ => true
  | _ => false

/-- A request is one to store a sample. -/
def SamplingRequest.isPut : SamplingRequest → Bool
  | .put _ _ => true
  | _ => false

/-- The container runs, a raw sample of it is taken, and the store does not
fail. -/
def Circumstances.Samples (circumstances : Circumstances)
    (inspection : Inspection) (raw : RawSample) : Prop :=
  circumstances.inspection = .ok inspection ∧
    inspection.status ≠ .exited ∧ circumstances.raw = .ok raw ∧
    circumstances.findFault = none ∧ circumstances.putFault = none

/-! ## The requests of a call -/

namespace Circumstances

variable {Store : Type} [SampleStore Store] {α : Type}

/-- An answer that a request can be given, whatever the store holds. -/
def MayAnswer (Store : Type) [SampleStore Store]
    (circumstances : Circumstances) (asked : SamplingRequest)
    (given : asked.Answer) : Prop :=
  ∃ store : Store, (circumstances.answer asked store).1 = given

/-- A program that stays within some requests asks no others when it is run. -/
theorem asked_of_within {allowed : SamplingRequest → Prop}
    {circumstances : Circumstances} {program : Sampling α}
    (within : program.Within allowed (circumstances.MayAnswer Store))
    (state : Aftermath Store) {asked : SamplingRequest}
    (member : asked ∈ (circumstances.runFrom program state).2.asked) :
    asked ∈ state.asked ∨ allowed asked := by
  induction program generalizing state with
  | done value => exact Or.inl member
  | ask first next ih =>
      have answered :
          circumstances.MayAnswer Store first
            (circumstances.answer first state.store).1 :=
        ⟨state.store, rfl⟩
      rcases ih _ (within.2 _ answered) _ member with noted | permitted
      · rcases List.mem_append.1 noted with earlier | now
        · exact Or.inl earlier
        · obtain rfl := List.mem_singleton.1 now
          exact Or.inr within.1
      · exact Or.inr permitted

variable {allowed : SamplingRequest → Prop} {circumstances : Circumstances}

theorem within_report (level : Level) (text : String)
    (reports : ∀ made, allowed (.report made)) :
    (Sampling.report level text).Within allowed
      (circumstances.MayAnswer Store) :=
  (Program.within_request _).2 (reports _)

/-- A container that has ended is not sampled: nothing is asked for but the
time and that its sample be dropped. -/
theorem within_ended (remembered : Duration) (inspection : Inspection)
    (clock : allowed .readClock)
    (erases : allowed (.erase inspection.id.text))
    (reports : ∀ made, allowed (.report made)) :
    (Sampling.ended remembered inspection).Within allowed
      (circumstances.MayAnswer Store) := by
  have forgets : (Sampling.forget inspection.id).Within allowed
      (circumstances.MayAnswer Store) := by
    refine Program.within_request_bind erases ?_
    rintro dropped -
    cases dropped with
    | ok done => exact Program.within_pure ()
    | error error => exact within_report _ _ reports
  unfold Sampling.ended
  cases inspection.finishedAt with
  | none => exact Program.within_pure _
  | some finishedAt =>
      simp only
      split
      · exact Program.within_pure _
      · refine Program.within_request_bind clock ?_
        rintro now -
        split
        · exact Program.within_pure _
        · refine Program.within_bind (within_report _ _ reports) ?_
          intro made
          refine Program.within_bind forgets ?_
          intro dropped
          exact Program.within_pure _

/-- An exchange looks its key up, and stores a sample there if that went
well. -/
theorem within_exchange (key : String) (sample : StoredSample)
    (finds : allowed (.find key))
    (puts : circumstances.findFault = none → allowed (.put key sample))
    (reports : ∀ made, allowed (.report made)) :
    (Sampling.exchange key sample).Within allowed
      (circumstances.MayAnswer Store) := by
  refine Program.within_request_bind finds ?_
  rintro found ⟨store, rfl⟩
  cases fault : circumstances.findFault with
  | some error =>
      simp only [answer, serve, fault]
      exact Program.within_pure _
  | none =>
      simp only [answer, serve, fault]
      have stores :
          (do
            let stored : Except StoreError Unit ←
              Sampling.ask (.put key sample)
            return stored.map fun () => SampleStore.find? store key :
            Sampling (Except StoreError (Option StoredSample))).Within allowed
              (circumstances.MayAnswer Store) := by
        refine Program.within_request_bind (puts fault) ?_
        intro stored _
        exact Program.within_pure _
      split
      · refine Program.within_bind (within_report _ _ reports) ?_
        intro made
        exact stores
      · exact stores

/-- A container that has not ended is sampled, and what is kept of the raw
sample is exchanged for what was stored. -/
theorem within_sampleRunning (inspection : Inspection)
    (fetches : allowed (.fetch inspection))
    (finds : allowed (.find inspection.id.text))
    (puts : ∀ raw, circumstances.raw = .ok raw →
      circumstances.findFault = none →
        allowed (.put inspection.id.text raw.stored))
    (reports : ∀ made, allowed (.report made)) :
    (Sampling.sampleRunning inspection).Within allowed
      (circumstances.MayAnswer Store) := by
  refine Program.within_request_bind fetches ?_
  rintro fetched ⟨store, rfl⟩
  cases taken : circumstances.raw with
  | error error =>
      simp only [answer, taken]
      exact Program.within_pure _
  | ok raw =>
      simp only [answer, taken]
      refine Program.within_bind
        (within_exchange _ _ finds (puts raw taken) reports) ?_
      intro exchanged
      cases exchanged with
      | error error => exact Program.within_pure _
      | ok previous => exact Program.within_pure _

/-- What a call asks for depends on what the inspection tells. -/
theorem within_sample (remembered : Duration) (name : String)
    (inspects : allowed (.inspect name))
    (ended : ∀ inspection, circumstances.inspection = .ok inspection →
      inspection.status = .exited →
        (Sampling.ended remembered inspection).Within allowed
          (circumstances.MayAnswer Store))
    (running : ∀ inspection, circumstances.inspection = .ok inspection →
      inspection.status ≠ .exited →
        (Sampling.sampleRunning inspection).Within allowed
          (circumstances.MayAnswer Store)) :
    (Sampling.sample remembered name).Within allowed
      (circumstances.MayAnswer Store) := by
  refine Program.within_request_bind inspects ?_
  rintro inspected ⟨store, rfl⟩
  cases told : circumstances.inspection with
  | error error =>
      simp only [answer, told]
      exact Program.within_pure _
  | ok inspection =>
      simp only [answer, told]
      split
      · rename_i exited
        refine Program.within_bind (ended inspection told exited) ?_
        intro reason
        exact Program.within_pure _
      · rename_i alive
        exact running inspection told alive

variable (remembered : Duration) (circumstances : Circumstances)
    (name : String) (store : Store)

theorem asked_of_within_sample
    (within : (Sampling.sample remembered name).Within allowed
      (circumstances.MayAnswer Store)) :
    ∀ asked ∈ (circumstances.run (Sampling.sample remembered name) store).2.asked,
      allowed asked := by
  intro asked member
  rw [run_eq_runFrom] at member
  rcases asked_of_within within _ member with noted | permitted
  · cases noted
  · exact permitted

/-- A container that has ended is neither sampled nor looked up nor stored. -/
theorem asked_of_exited {inspection : Inspection}
    (inspected : circumstances.inspection = .ok inspection)
    (exited : inspection.status = .exited) :
    ∀ asked ∈ (circumstances.run (Sampling.sample remembered name) store).2.asked,
      asked.isFetch = false ∧ asked.isFind = false ∧ asked.isPut = false := by
  apply asked_of_within_sample
  apply within_sample remembered name ⟨rfl, rfl, rfl⟩
  · intro again _ _
    exact within_ended remembered again ⟨rfl, rfl, rfl⟩ ⟨rfl, rfl, rfl⟩
      fun _ => ⟨rfl, rfl, rfl⟩
  · intro again inspectedAgain alive
    rw [inspected] at inspectedAgain
    cases inspectedAgain
    exact absurd exited alive

/-- Nothing is stored after a step that failed. -/
theorem asked_of_failed
    (failed : (∃ error, circumstances.inspection = .error error) ∨
      (∃ error, circumstances.raw = .error error) ∨
        circumstances.findFault ≠ none) :
    ∀ asked ∈ (circumstances.run (Sampling.sample remembered name) store).2.asked,
      asked.isPut = false := by
  apply asked_of_within_sample
  refine within_sample remembered name rfl ?_ ?_
  · intro inspection _ _
    exact within_ended remembered inspection rfl rfl fun _ => rfl
  · intro inspection inspected _
    refine within_sampleRunning inspection rfl rfl ?_ fun _ => rfl
    intro raw fetched found
    rcases failed with ⟨error, uninspected⟩ | ⟨error, unfetched⟩ | fault
    · rw [uninspected] at inspected
      cases inspected
    · rw [unfetched] at fetched
      cases fetched
    · exact absurd found fault

end Circumstances

/-! ## The store after a call -/

section Stores

variable {Store : Type} [SampleStore Store]

/-- A store differs from the one before it in what it holds under one key. -/
def ChangedAt (key : String) (held : Option StoredSample)
    (before after : Store) : Prop :=
  ∀ other, SampleStore.find? after other =
    if key = other then held else SampleStore.find? before other

/-- What a call does to a store, by what it yields, and what that depends
on. -/
structure CallEffect (remembered : Duration) (circumstances : Circumstances)
    (before : Store) (result : Except SamplingError MetricsSample)
    (after : Store) : Prop where
  /-- With a sample, the container's key holds what is kept of the raw one. -/
  sampled : ∀ sample, result = .ok sample →
    ∃ inspection raw, circumstances.inspection = .ok inspection ∧
      circumstances.raw = .ok raw ∧
      ChangedAt inspection.id.text (some ⟨raw.time, raw.cpu⟩) before after
  /-- There is a sample exactly when no step has failed. -/
  sampled_iff : (∃ sample, result = .ok sample) ↔
    ∃ inspection raw, circumstances.inspection = .ok inspection ∧
      inspection.status ≠ .exited ∧ circumstances.raw = .ok raw ∧
      circumstances.findFault = none ∧ circumstances.putFault = none
  /-- With a container that ended for too long, its key holds nothing. -/
  dropped : ∀ id age, result = .error (.expired id age) →
    circumstances.eraseFault = none → ChangedAt id.text none before after
  /-- A sample that could not be dropped is still there. -/
  notDropped : ∀ id age, result = .error (.expired id age) →
    circumstances.eraseFault ≠ none → after = before
  /-- Whether a container ended for too long is no matter of the store. -/
  expired_iff : ∀ id age, result = .error (.expired id age) ↔
    ∃ inspection, circumstances.inspection = .ok inspection ∧
      inspection.id = id ∧ inspection.status = .exited ∧
      inspection.overdue? remembered circumstances.now = some age
  /-- With any other error, the store is as it was. -/
  untouched : ∀ error, result = .error error →
    (∀ id age, error ≠ .expired id age) → after = before

section Outcomes

variable {remembered : Duration} {circumstances : Circumstances}
    {before after : Store} {result : Except SamplingError MetricsSample}

theorem CallOutcome.sampled_iff
    (outcome : CallOutcome remembered circumstances before result after) :
    (∃ sample, result = .ok sample) ↔
      ∃ inspection raw, circumstances.inspection = .ok inspection ∧
        inspection.status ≠ .exited ∧ circumstances.raw = .ok raw ∧
        circumstances.findFault = none ∧ circumstances.putFault = none := by
  cases outcome with
  | uninspected error inspected => simp [inspected]
  | unexpired inspection inspected exited recent => simp [inspected, exited]
  | expired inspection age inspected exited overdue erased =>
      simp [inspected, exited]
  | expiredKept inspection age error inspected exited overdue fault =>
      simp [inspected, exited]
  | unfetched inspection error inspected alive fetched => simp [fetched]
  | unfound inspection raw error inspected alive fetched fault => simp [fault]
  | unstored inspection raw error inspected alive fetched found fault =>
      simp [fault]
  | sampled inspection raw inspected alive fetched found stored =>
      simp [inspected, alive, fetched, found, stored]

theorem CallOutcome.expired_iff
    (outcome : CallOutcome remembered circumstances before result after)
    (id : ContainerId) (age : Duration) :
    result = .error (.expired id age) ↔
      ∃ inspection, circumstances.inspection = .ok inspection ∧
        inspection.id = id ∧ inspection.status = .exited ∧
        inspection.overdue? remembered circumstances.now = some age := by
  cases outcome with
  | uninspected error inspected => simp [inspected]
  | unexpired inspection inspected exited recent => simp [inspected, recent]
  | expired inspection late inspected exited overdue erased =>
      simp [inspected, exited, overdue]
  | expiredKept inspection late error inspected exited overdue fault =>
      simp [inspected, exited, overdue]
  | unfetched inspection error inspected alive fetched =>
      simp [inspected, alive]
  | unfound inspection raw error inspected alive fetched fault =>
      simp [inspected, alive]
  | unstored inspection raw error inspected alive fetched found fault =>
      simp [inspected, alive]
  | sampled inspection raw inspected alive fetched found stored =>
      simp [inspected, alive]

/-- Where a container has ended, three outcomes are left. -/
theorem CallOutcome.of_exited {inspection : Inspection}
    (outcome : CallOutcome remembered circumstances before result after)
    (inspected : circumstances.inspection = .ok inspection)
    (exited : inspection.status = .exited) :
    (inspection.overdue? remembered circumstances.now = none ∧
        result = .error (.unexpired inspection.id) ∧ after = before) ∨
      ∃ age, inspection.overdue? remembered circumstances.now = some age ∧
        result = .error (.expired inspection.id age) ∧
        ((circumstances.eraseFault = none ∧
            after = SampleStore.erase before inspection.id.text) ∨
          (circumstances.eraseFault ≠ none ∧ after = before)) := by
  have same {again : Inspection}
      (inspectedAgain : circumstances.inspection = .ok again) :
      again = inspection :=
    Except.ok.inj (inspectedAgain.symm.trans inspected)
  cases outcome with
  | unexpired again inspectedAgain _ recent =>
      obtain rfl := same inspectedAgain
      exact Or.inl ⟨recent, rfl, rfl⟩
  | expired again age inspectedAgain _ overdue erased =>
      obtain rfl := same inspectedAgain
      exact Or.inr ⟨age, overdue, rfl, Or.inl ⟨erased, rfl⟩⟩
  | expiredKept again age error inspectedAgain _ overdue fault =>
      obtain rfl := same inspectedAgain
      exact Or.inr ⟨age, overdue, rfl, Or.inr ⟨by simp [fault], rfl⟩⟩
  | uninspected error failed => simp [failed] at inspected
  | unfetched again error inspectedAgain alive fetched
  | unfound again raw error inspectedAgain alive fetched fault
  | unstored again raw error inspectedAgain alive fetched found fault
  | sampled again raw inspectedAgain alive fetched found stored =>
      obtain rfl := same inspectedAgain
      exact absurd exited alive

/-- Where nothing fails with a container that runs, one outcome is left. -/
theorem CallOutcome.of_samples {inspection : Inspection} {raw : RawSample}
    (outcome : CallOutcome remembered circumstances before result after)
    (samples : circumstances.Samples inspection raw) :
    result = .ok (.derive inspection raw
        (SampleStore.find? before inspection.id.text)) ∧
      after = SampleStore.put before circumstances.now inspection.id.text
        raw.stored := by
  rcases outcome.sampled_iff.2 ⟨inspection, raw, samples⟩ with ⟨sample, rfl⟩
  cases outcome with
  | sampled again other inspectedAgain _ fetchedAgain _ _ =>
      rcases samples with ⟨inspected, -, fetched, -, -⟩
      obtain rfl := Except.ok.inj (inspected.symm.trans inspectedAgain)
      obtain rfl := Except.ok.inj (fetched.symm.trans fetchedAgain)
      exact ⟨rfl, rfl⟩

theorem CallOutcome.effect [LawfulSampleStore Store]
    (outcome : CallOutcome remembered circumstances before result after) :
    CallEffect remembered circumstances before result after := by
  refine ⟨?_, outcome.sampled_iff, ?_, ?_, outcome.expired_iff, ?_⟩
  · rintro sample rfl
    cases outcome with
    | sampled inspection raw inspected alive fetched found stored =>
        exact ⟨inspection, raw, inspected, fetched, fun other =>
          LawfulSampleStore.find?_put before _ _ other _⟩
  · rintro id age rfl erased
    cases outcome with
    | expired inspection _ inspected exited overdue _ =>
        exact fun other => LawfulSampleStore.find?_erase before _ other
    | expiredKept inspection _ error inspected exited overdue fault =>
        rw [erased] at fault
        cases fault
  · rintro id age rfl kept
    cases outcome with
    | expired inspection _ inspected exited overdue erased =>
        exact absurd erased kept
    | expiredKept inspection _ error inspected exited overdue fault => rfl
  · rintro error rfl unexpired
    cases outcome with
    | expired inspection age inspected exited overdue erased =>
        exact absurd rfl (unexpired inspection.id age)
    | _ => rfl

end Outcomes

variable [LawfulSampleStore Store]

/-- Whatever a call meets, it stores what is kept of its raw sample under the
key of its container, or drops what is stored there, or leaves the store as it
was, and its result tells which.  A failing drop changes nothing of the result,
a container that has ended is neither sampled nor looked up nor stored, and
nothing is stored after a step that failed. -/
theorem call_changes_its_key_or_nothing (remembered : Duration)
    (circumstances : Circumstances) (name : String) (store : Store) :
    let run := circumstances.run (Sampling.sample remembered name) store
    CallEffect remembered circumstances store run.1 run.2.store ∧
      (∀ inspection, circumstances.inspection = .ok inspection →
        inspection.status = .exited → ∀ asked ∈ run.2.asked,
          asked.isFetch = false ∧ asked.isFind = false ∧
            asked.isPut = false) ∧
      ((∃ error, circumstances.inspection = .error error) ∨
          (∃ error, circumstances.raw = .error error) ∨
            circumstances.findFault ≠ none →
        ∀ asked ∈ run.2.asked, asked.isPut = false) := by
  intro run
  refine ⟨(circumstances.sample_outcome remembered name store).effect, ?_, ?_⟩
  · intro inspection inspected exited
    exact circumstances.asked_of_exited remembered name store inspected exited
  · intro failed
    exact circumstances.asked_of_failed remembered name store failed

end Stores

/-- A container that ended at the start of 1970. -/
def endedShop : Inspection :=
  ⟨⟨"shop", by decide⟩, .exited, 0, some ⟨0⟩, 0, ⟨0, 0, 0⟩⟩

/-- A call that inspects it later, with a store that drops nothing. -/
def undroppableShop : Circumstances :=
  ⟨.ok endedShop, .error .nothingMounted, ⟨10⟩, none, none, some .encode⟩

theorem sample_of_undroppableShop_is_kept :
    let store : MemoryStore :=
      KeyMap.empty.insert "shop" ⟨⟨0⟩, ⟨7, 0, 0, [], 0, 1, 0, 0, 0, 0, 1⟩⟩
    let run := undroppableShop.run (Sampling.sample ⟨5⟩ "shop") store
    run.1 = .error (.expired endedShop.id ⟨10⟩) ∧ run.2.store = store := by
  intro store run
  have effect :=
    (call_changes_its_key_or_nothing ⟨5⟩ undroppableShop "shop" store).1
  have expired : run.1 = .error (.expired endedShop.id ⟨10⟩) := by
    refine (effect.expired_iff _ _).2 ⟨endedShop, rfl, rfl, rfl, ?_⟩
    decide
  exact ⟨expired, effect.notDropped _ _ expired (by decide)⟩

end CgroupMeter
