import CgroupMeter.Proofs.Sampling.Effect
import CgroupMeter.Proofs.Sampling.History

/-!
# Containers that have ended

A container that has ended is remembered for a time.  As long as the clock is
not set back, the calls that meet it find it remembered at first, and from some
call on they find it forgotten.  Until then its stored sample is left alone.
Once the sample is dropped, nothing brings it back but a new sample, so that the
container starts cold when it runs again.
-/

namespace CgroupMeter

/-- It is this long ago that a container ended, and that is longer than it is
remembered.  Where the time for that is zero, it is remembered for ever. -/
def Overdue (remembered : Duration) (finishedAt : Option Time) (now : Time)
    (age : Duration) : Prop :=
  0 < remembered.nanos ∧
    ∃ finished, finishedAt = some finished ∧
      now.nanos - finished.nanos = age.nanos ∧
        (remembered.nanos : Int) < now.nanos - finished.nanos

theorem Inspection.overdue?_eq_some_iff {inspection : Inspection}
    {remembered : Duration} {now : Time} {age : Duration} :
    inspection.overdue? remembered now = some age ↔
      Overdue remembered inspection.finishedAt now age := by
  unfold Inspection.overdue? Overdue
  cases inspection.finishedAt with
  | none => simp
  | some finished =>
      simp only [Option.some.injEq, exists_eq_left', Duration.isZero,
        beq_iff_eq]
      split
      · rename_i zero
        simp [zero]
      · simp only [Sampling.expiredAge?, Option.filter_eq_some_iff,
          Time.since?_eq_some_iff, decide_eq_true_eq]
        omega

/-- What is longer ago than a time stays so. -/
theorem Overdue.later {remembered age : Duration} {finishedAt : Option Time}
    {now later : Time} (overdue : Overdue remembered finishedAt now age)
    (passed : now.nanos ≤ later.nanos) :
    ∃ longer, Overdue remembered finishedAt later longer := by
  rcases overdue with ⟨limited, finished, known, -, long⟩
  refine ⟨⟨(later.nanos - finished.nanos).toNat⟩, limited, finished, known,
    ?_, ?_⟩
  · simp only
    omega
  · omega

namespace SamplingHistory

/-- The call finds that the container has ended, and when. -/
def Call.FindsEnded (id : ContainerId) (finishedAt : Option Time)
    (call : Call) : Prop :=
  ∃ inspection, call.circumstances.inspection = .ok inspection ∧
    inspection.id = id ∧ inspection.status = .exited ∧
    inspection.finishedAt = finishedAt

/-- What a call does that finds a container ended. -/
structure EndedEffect {Store : Type} [SampleStore Store]
    (remembered : Duration) (id : ContainerId) (finishedAt : Option Time)
    (circumstances : Circumstances) (before : Store)
    (result : Except SamplingError MetricsSample) (after : Store) : Prop where
  /-- The container has expired exactly when it is overdue, and for as long as
  the result tells. -/
  expired_iff : ∀ age, result = .error (.expired id age) ↔
    Overdue remembered finishedAt circumstances.now age
  /-- There is no other result. -/
  unexpired_iff : result = .error (.unexpired id) ↔
    ¬ ∃ age, Overdue remembered finishedAt circumstances.now age
  /-- An unexpired container keeps its sample. -/
  kept : result = .error (.unexpired id) → after = before
  /-- An expired one loses it, and nothing else is lost. -/
  dropped : ∀ age, result = .error (.expired id age) →
    circumstances.eraseFault = none → ChangedAt id.text none before after
  /-- A sample that could not be dropped is still there. -/
  notDropped : ∀ age, result = .error (.expired id age) →
    circumstances.eraseFault ≠ none → after = before

/-! ## Single calls -/

section Calls

variable {Store : Type} [SampleStore Store] {remembered : Duration}
    {id : ContainerId} {finishedAt : Option Time}

theorem endedEffect_of_outcome [LawfulSampleStore Store] {call : Call}
    {before after : Store} {result : Except SamplingError MetricsSample}
    (outcome : CallOutcome remembered call.circumstances before result after)
    (ended : call.FindsEnded id finishedAt) :
    EndedEffect remembered id finishedAt call.circumstances before result
      after := by
  rcases ended with ⟨inspection, inspected, rfl, exited, rfl⟩
  rcases outcome.of_exited inspected exited with
    ⟨recent, rfl, rfl⟩ | ⟨age, overdue, rfl, left⟩
  · have notOverdue (age : Duration) : ¬ Overdue remembered
        inspection.finishedAt call.circumstances.now age := by
      rw [← Inspection.overdue?_eq_some_iff, recent]
      exact nofun
    constructor <;> simp [notOverdue]
  · refine ⟨fun other => ?_, ?_, nofun, fun _ _ erased => ?_,
      fun _ _ fault => ?_⟩
    · rw [← Inspection.overdue?_eq_some_iff, overdue]
      simp
    · exact iff_of_false nofun fun recent =>
        recent ⟨age, Inspection.overdue?_eq_some_iff.1 overdue⟩
    · rcases left with ⟨-, rfl⟩ | ⟨fault, -⟩
      · exact fun other => LawfulSampleStore.find?_erase before _ other
      · exact absurd erased fault
    · rcases left with ⟨erased, -⟩ | ⟨-, kept⟩
      · exact absurd erased fault
      · exact kept

theorem Call.FindsEnded.notSampled {call : Call}
    (ended : call.FindsEnded id finishedAt) (store : Store) (key : String)
    (kept : StoredSample) :
    ¬ (makeCall remembered call store).1.Sampled key kept := by
  rintro ⟨-, -, sample, -, -, -, -, sampled⟩
  rcases ended with ⟨inspection, inspected, rfl, exited, rfl⟩
  have outcome :=
    call.circumstances.sample_outcome remembered call.name store
  rcases outcome.of_exited inspected exited with
    ⟨-, unexpired, -⟩ | ⟨age, -, expired, -⟩
  · exact nomatch sampled.symm.trans unexpired
  · exact nomatch sampled.symm.trans expired

end Calls

/-! ## Runs -/

section Runs

variable {Store : Type} [SampleStore Store] {remembered : Duration}
    {calls : List Call} {id : ContainerId} {finishedAt : Option Time}

theorem makeCalls_append (remembered : Duration) (calls more : List Call)
    (start : Store) :
    makeCalls remembered (calls ++ more) start =
      ((makeCalls remembered calls start).1 ++
          (makeCalls remembered more (makeCalls remembered calls start).2).1,
        (makeCalls remembered more
          (makeCalls remembered calls start).2).2) := by
  induction calls generalizing start with
  | nil => rfl
  | cons call rest ih => simp [makeCalls, ih]

theorem forall_records {holds : Record → Prop}
    (each : ∀ call ∈ calls, ∀ store : Store,
      holds (makeCall remembered call store).1)
    (start : Store) :
    ∀ record ∈ (makeCalls remembered calls start).1, holds record := by
  induction calls generalizing start with
  | nil => exact List.forall_mem_nil _
  | cons call rest ih =>
      simp only [makeCalls, List.mem_cons, forall_eq_or_imp]
      exact ⟨each call List.mem_cons_self start,
        ih (fun later member => each later (List.mem_cons_of_mem _ member)) _⟩

/-- In a run on a container that has ended, all calls from some one on find it
expired, and the ones before do not. -/
theorem records_split_at_expiry [LawfulSampleStore Store]
    (ended : ∀ call ∈ calls, call.FindsEnded id finishedAt)
    (clock : calls.Pairwise fun earlier later =>
      earlier.circumstances.now.nanos ≤ later.circumstances.now.nanos)
    (start : Store) :
    ∃ unexpired expired,
      (makeCalls remembered calls start).1 = unexpired ++ expired ∧
        (∀ record ∈ unexpired, record.result = .error (.unexpired id)) ∧
        ∀ record ∈ expired, ∃ age, record.result = .error (.expired id age) := by
  induction calls generalizing start with
  | nil => exact ⟨[], [], rfl, List.forall_mem_nil _, List.forall_mem_nil _⟩
  | cons call rest ih =>
      rcases List.pairwise_cons.1 clock with ⟨passed, clockThen⟩
      have endedThen : ∀ later ∈ rest, later.FindsEnded id finishedAt :=
        fun later member => ended later (List.mem_cons_of_mem _ member)
      have effect := endedEffect_of_outcome
        (call.circumstances.sample_outcome remembered call.name start)
        (ended call List.mem_cons_self)
      by_cases overdue :
          ∃ age, Overdue remembered finishedAt call.circumstances.now age
      · refine ⟨[], (makeCalls remembered (call :: rest) start).1, rfl,
          List.forall_mem_nil _, ?_⟩
        refine forall_records (fun later member store => ?_) start
        have overdueThen : ∃ age,
            Overdue remembered finishedAt later.circumstances.now age := by
          rcases overdue with ⟨age, overdue⟩
          rcases List.mem_cons.1 member with rfl | member
          · exact ⟨age, overdue⟩
          · exact overdue.later (passed later member)
        rcases overdueThen with ⟨age, overdueThen⟩
        have effectThen := endedEffect_of_outcome
          (later.circumstances.sample_outcome remembered later.name store)
          (ended later member)
        exact ⟨age, (effectThen.expired_iff age).2 overdueThen⟩
      · rcases ih endedThen clockThen (makeCall remembered call start).2 with
          ⟨unexpired, expired, split, each, eachThen⟩
        refine ⟨(makeCall remembered call start).1 :: unexpired, expired, ?_, ?_,
          eachThen⟩
        · simp [makeCalls, split]
        · exact List.forall_mem_cons.2 ⟨effect.unexpired_iff.2 overdue, each⟩

/-- Where there is no sample of a container, a call leaves none unless it takes
one. -/
theorem find?_eq_none_of_outcome [LawfulSampleStore Store] {call : Call}
    {before after : Store} {result : Except SamplingError MetricsSample}
    {key : String}
    (outcome : CallOutcome remembered call.circumstances before result after)
    (absent : SampleStore.find? before key = none)
    (notSampled : ∀ kept, ¬ Record.Sampled ⟨call, result⟩ key kept) :
    SampleStore.find? after key = none := by
  cases outcome with
  | expired inspection age inspected exited overdue erased =>
      rw [LawfulSampleStore.find?_erase, absent, ite_self]
  | sampled inspection raw inspected alive fetched found stored =>
      have other : inspection.id.text ≠ key := fun same =>
        notSampled raw.stored
          ⟨inspection, raw, _, inspected, same, fetched, rfl, rfl⟩
      rw [LawfulSampleStore.find?_put, if_neg other, absent]
  | _ => exact absent

theorem find?_makeCalls_eq_none [LawfulSampleStore Store] {start : Store}
    {key : String} (absent : SampleStore.find? start key = none)
    (notSampled : ∀ record ∈ (makeCalls remembered calls start).1,
      ∀ kept, ¬ record.Sampled key kept) :
    SampleStore.find? (makeCalls remembered calls start).2 key = none := by
  induction calls generalizing start with
  | nil => exact absent
  | cons call rest ih =>
      simp only [makeCalls, List.mem_cons, forall_eq_or_imp] at notSampled
      have absentThen :
          SampleStore.find? (makeCall remembered call start).2 key = none :=
        find?_eq_none_of_outcome
          (call.circumstances.sample_outcome remembered call.name start)
          absent notSampled.1
      exact ih absentThen notSampled.2

/-- A container of which nothing is stored starts cold when it is sampled. -/
theorem makeCall_of_absent {call : Call} {store : Store}
    {inspection : Inspection} {raw : RawSample}
    (samples : call.circumstances.Samples inspection raw)
    (absent : SampleStore.find? store inspection.id.text = none) :
    (makeCall remembered call store).1 =
      ⟨call, .ok (.derive inspection raw none)⟩ := by
  rcases (call.circumstances.sample_outcome remembered call.name
    store).of_samples samples with ⟨result, -⟩
  rw [absent] at result
  exact congrArg (Record.mk call) result

/-- Along any calls that find a container ended, while the clock is not set
back, the container is remembered at first and expired from some call on.  Its
sample is left alone until then, and once it was dropped it is gone, until the
container is sampled again, and then that starts cold. -/
theorem ended_container_expires_for_good [LawfulSampleStore Store]
    (ended : ∀ call ∈ calls, call.FindsEnded id finishedAt)
    (clock : calls.Pairwise fun earlier later =>
      earlier.circumstances.now.nanos ≤ later.circumstances.now.nanos)
    (start : Store) :
    (∃ unexpired expired,
      (makeCalls remembered calls start).1 = unexpired ++ expired ∧
        (∀ record ∈ unexpired, record.result = .error (.unexpired id)) ∧
        ∀ record ∈ expired,
          ∃ age, record.result = .error (.expired id age)) ∧
      ∀ before call after, calls = before ++ call :: after →
        let reached := (makeCalls remembered before start).2
        let run := call.circumstances.run
          (Sampling.sample remembered call.name) reached
        EndedEffect remembered id finishedAt call.circumstances reached run.1
            run.2.store ∧
          (∀ asked ∈ run.2.asked, asked.isFetch = false ∧
            asked.isFind = false ∧ asked.isPut = false) ∧
          ((∃ age, run.1 = .error (.expired id age)) →
            call.circumstances.eraseFault = none →
            (∀ between, between <+: after →
              SampleStore.find? (makeCalls remembered
                (before ++ call :: between) start).2 id.text = none) ∧
            ∀ others restart inspection raw,
              (∀ record ∈ (makeCalls remembered others
                  (makeCalls remembered calls start).2).1,
                ∀ kept, ¬ record.Sampled id.text kept) →
              restart.circumstances.Samples inspection raw →
              inspection.id = id →
              (makeCall remembered restart (makeCalls remembered
                  (calls ++ others) start).2).1 =
                ⟨restart, .ok (.derive inspection raw none)⟩) := by
  refine ⟨records_split_at_expiry ended clock start, ?_⟩
  rintro before call after rfl reached run
  have endedNow : call.FindsEnded id finishedAt := ended call (by simp)
  have effect : EndedEffect remembered id finishedAt call.circumstances reached
      run.1 run.2.store :=
    endedEffect_of_outcome
      (call.circumstances.sample_outcome remembered call.name reached) endedNow
  refine ⟨effect, ?_, ?_⟩
  · rcases endedNow with ⟨inspection, inspected, -, exited, -⟩
    exact call.circumstances.asked_of_exited remembered call.name reached
      inspected exited
  rintro ⟨age, expired⟩ erased
  have dropped : SampleStore.find? run.2.store id.text = none := by
    rw [effect.dropped age expired erased, if_pos rfl]
  have gone (between : List Call) (front : between <+: after) :
      SampleStore.find? (makeCalls remembered (before ++ call :: between)
        start).2 id.text = none := by
    have silent : ∀ record ∈ (makeCalls remembered between run.2.store).1,
        ∀ kept, ¬ record.Sampled id.text kept := by
      refine forall_records (fun later member store kept => ?_) run.2.store
      have endedLater : later.FindsEnded id finishedAt :=
        ended later (by simp [front.subset member])
      exact endedLater.notSampled store id.text kept
    have absent := find?_makeCalls_eq_none dropped silent
    rw [makeCalls_append]
    exact absent
  refine ⟨gone, ?_⟩
  rintro others restart inspection raw notSampled samples rfl
  refine makeCall_of_absent samples ?_
  rw [makeCalls_append]
  exact find?_makeCalls_eq_none (gone after List.prefix_rfl) notSampled

end Runs

/-- A call that finds `endedShop` at a moment, with a store that may fail to
drop its sample. -/
def meetShop (nanos : Int) (eraseFault : Option StoreError) : Call :=
  ⟨"shop", ⟨.ok endedShop, .error .nothingMounted, ⟨nanos⟩, none, none,
    eraseFault⟩⟩

/-- The container of `endedShop`, running again. -/
def restartedShop : Inspection :=
  { runningWeb with id := endedShop.id }

/-- Five nanoseconds after the end it is not too long yet, and the first drop
fails. -/
theorem restartedShop_starts_cold :
    let calls :=
      [meetShop 5 none, meetShop 10 (some .encode), meetShop 11 none]
    let start : MemoryStore :=
      KeyMap.empty.insert "shop" (webSampleAt ⟨0⟩ 7).stored
    let restart : Call := { sampleWeb (webSampleAt ⟨12⟩ 9) none with
      circumstances.inspection := .ok restartedShop }
    (makeCalls ⟨5⟩ calls start).1.map Record.result =
        [.error (.unexpired endedShop.id), .error (.expired endedShop.id ⟨10⟩),
          .error (.expired endedShop.id ⟨11⟩)] ∧
      (makeCall ⟨5⟩ restart (makeCalls ⟨5⟩ calls start).2).1 =
        ⟨restart, .ok (.derive restartedShop (webSampleAt ⟨12⟩ 9) none)⟩ := by
  intro calls start restart
  have ended : ∀ call ∈ calls, call.FindsEnded endedShop.id (some ⟨0⟩) := by
    intro call member
    simp only [calls, List.mem_cons, List.not_mem_nil, or_false] at member
    rcases member with rfl | rfl | rfl <;> exact ⟨endedShop, rfl, rfl, rfl, rfl⟩
  have clock : calls.Pairwise fun earlier later =>
      earlier.circumstances.now.nanos ≤ later.circumstances.now.nanos := by
    simp [calls, meetShop]
  rcases @ended_container_expires_for_good MemoryStore _ ⟨5⟩ _ _ _ _ ended
    clock start with ⟨-, each⟩
  rcases each [] _ _ rfl with ⟨first, -, -⟩
  rcases each [_] _ _ rfl with ⟨second, -, -⟩
  rcases each [_, _] _ _ rfl with ⟨third, -, gone⟩
  have unexpired := first.unexpired_iff.2 (by
    rintro ⟨age, -, finished, known, -, long⟩
    cases known
    simp [meetShop] at long)
  have expired := (second.expired_iff ⟨10⟩).2
    ⟨by decide, _, rfl, by decide, by decide⟩
  have expiredThen := (third.expired_iff ⟨11⟩).2
    ⟨by decide, _, rfl, by decide, by decide⟩
  refine ⟨?_, ?_⟩
  · exact List.cons_eq_cons.2 ⟨unexpired, List.cons_eq_cons.2 ⟨expired,
      List.cons_eq_cons.2 ⟨expiredThen, rfl⟩⟩⟩
  · exact (gone ⟨_, expiredThen⟩ rfl).2 [] restart _ _ (List.forall_mem_nil _)
      ⟨rfl, by decide, rfl, rfl, rfl⟩ rfl

end SamplingHistory

end CgroupMeter
