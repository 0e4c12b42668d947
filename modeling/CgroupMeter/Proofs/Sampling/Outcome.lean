import CgroupMeter.Sampling.Circumstances

/-!
# What one call of the sampler can do

A call of the sampler ends in one of eight ways.  Each of them fixes the
result of the call and the store after it; `sample_outcome` says that there
is no other.  Later statements about calls are case analyses on these
outcomes and never open the sampling program again.
-/

namespace CgroupMeter

/-- How long ago a container ended, if that is longer than it is
remembered. -/
def Inspection.overdue? (inspection : Inspection) (remembered : Duration)
    (now : Time) : Option Duration :=
  match inspection.finishedAt with
  | none => none
  | some finishedAt =>
      if remembered.isZero then none
      else Sampling.expiredAge? remembered finishedAt now

/-- The ways in which a call of the sampler ends, each with its result and
the store after it. -/
inductive CallOutcome {Store : Type} [SampleStore Store]
    (remembered : Duration) (circumstances : Circumstances) (store : Store) :
    Except SamplingError MetricsSample → Store → Prop where
  | uninspected (error : ContainerError)
      (inspected : circumstances.inspection = .error error) :
      CallOutcome remembered circumstances store (.error (.inspect error)) store
  | unexpired (inspection : Inspection)
      (inspected : circumstances.inspection = .ok inspection)
      (exited : inspection.status = .exited)
      (recent : inspection.overdue? remembered circumstances.now = none) :
      CallOutcome remembered circumstances store
        (.error (.unexpired inspection.id)) store
  | expired (inspection : Inspection) (age : Duration)
      (inspected : circumstances.inspection = .ok inspection)
      (exited : inspection.status = .exited)
      (overdue : inspection.overdue? remembered circumstances.now = some age)
      (erased : circumstances.eraseFault = none) :
      CallOutcome remembered circumstances store
        (.error (.expired inspection.id age))
        (SampleStore.erase store inspection.id.text)
  | expiredKept (inspection : Inspection) (age : Duration) (error : StoreError)
      (inspected : circumstances.inspection = .ok inspection)
      (exited : inspection.status = .exited)
      (overdue : inspection.overdue? remembered circumstances.now = some age)
      (fault : circumstances.eraseFault = some error) :
      CallOutcome remembered circumstances store
        (.error (.expired inspection.id age)) store
  | unfetched (inspection : Inspection) (error : FetchError)
      (inspected : circumstances.inspection = .ok inspection)
      (alive : inspection.status ≠ .exited)
      (fetched : circumstances.raw = .error error) :
      CallOutcome remembered circumstances store (.error (.fetch error)) store
  | unfound (inspection : Inspection) (raw : RawSample) (error : StoreError)
      (inspected : circumstances.inspection = .ok inspection)
      (alive : inspection.status ≠ .exited)
      (fetched : circumstances.raw = .ok raw)
      (fault : circumstances.findFault = some error) :
      CallOutcome remembered circumstances store (.error (.store error)) store
  | unstored (inspection : Inspection) (raw : RawSample) (error : StoreError)
      (inspected : circumstances.inspection = .ok inspection)
      (alive : inspection.status ≠ .exited)
      (fetched : circumstances.raw = .ok raw)
      (found : circumstances.findFault = none)
      (fault : circumstances.putFault = some error) :
      CallOutcome remembered circumstances store (.error (.store error)) store
  | sampled (inspection : Inspection) (raw : RawSample)
      (inspected : circumstances.inspection = .ok inspection)
      (alive : inspection.status ≠ .exited)
      (fetched : circumstances.raw = .ok raw)
      (found : circumstances.findFault = none)
      (stored : circumstances.putFault = none) :
      CallOutcome remembered circumstances store
        (.ok (.derive inspection raw
          (SampleStore.find? store inspection.id.text)))
        (SampleStore.put store circumstances.now inspection.id.text raw.stored)

/-! ## Answers to single requests -/

namespace Circumstances

variable {Store : Type} [SampleStore Store] {α β : Type}

/-- Run a sampling program after other requests were answered. -/
def runFrom (circumstances : Circumstances) (program : Sampling α)
    (state : Aftermath Store) : α × Aftermath Store :=
  (Program.runIn (m := StateM (Aftermath Store)) circumstances.answerNoting
    program).run state

theorem run_eq_runFrom (circumstances : Circumstances) (program : Sampling α)
    (store : Store) :
    circumstances.run program store =
      circumstances.runFrom program ⟨store, []⟩ := rfl

@[simp]
theorem runFrom_pure (circumstances : Circumstances) (value : α)
    (state : Aftermath Store) :
    circumstances.runFrom (pure value) state = (value, state) := rfl

@[simp]
theorem runFrom_bind (circumstances : Circumstances) (program : Sampling α)
    (next : α → Sampling β) (state : Aftermath Store) :
    circumstances.runFrom (program >>= next) state =
      circumstances.runFrom (next (circumstances.runFrom program state).1)
        (circumstances.runFrom program state).2 := by
  simp only [runFrom, Program.runIn_bind]
  rfl

@[simp]
theorem runFrom_map (circumstances : Circumstances) (transform : α → β)
    (program : Sampling α) (state : Aftermath Store) :
    circumstances.runFrom (transform <$> program) state =
      (transform (circumstances.runFrom program state).1,
        (circumstances.runFrom program state).2) := by
  rw [map_eq_pure_bind, runFrom_bind, runFrom_pure]

theorem runFrom_ask (circumstances : Circumstances) (asked : SamplingRequest)
    (state : Aftermath Store) :
    circumstances.runFrom (Sampling.ask asked) state =
      ((circumstances.answer asked state.store).1,
        ⟨(circumstances.answer asked state.store).2,
          state.asked ++ [asked]⟩) := by
  simp only [runFrom, Sampling.ask, Program.runIn_request]
  rfl

section Requests

variable (circumstances : Circumstances) (state : Aftermath Store)

@[simp]
theorem runFrom_inspect (name : String) :
    circumstances.runFrom (α := Except ContainerError Inspection)
        (Sampling.ask (.inspect name)) state =
      (circumstances.inspection,
        ⟨state.store, state.asked ++ [.inspect name]⟩) :=
  circumstances.runFrom_ask (.inspect name) state

@[simp]
theorem runFrom_fetch (inspection : Inspection) :
    circumstances.runFrom (α := Except FetchError RawSample)
        (Sampling.ask (.fetch inspection)) state =
      (circumstances.raw,
        ⟨state.store, state.asked ++ [.fetch inspection]⟩) :=
  circumstances.runFrom_ask (.fetch inspection) state

@[simp]
theorem runFrom_readClock :
    circumstances.runFrom (α := Time) (Sampling.ask .readClock) state =
      (circumstances.now, ⟨state.store, state.asked ++ [.readClock]⟩) :=
  circumstances.runFrom_ask .readClock state

@[simp]
theorem runFrom_find (key : String) :
    circumstances.runFrom (α := Except StoreError (Option StoredSample))
        (Sampling.ask (.find key)) state =
      (match circumstances.findFault with
        | some error => .error error
        | none => .ok (SampleStore.find? state.store key),
        ⟨state.store, state.asked ++ [.find key]⟩) := by
  rw [circumstances.runFrom_ask (.find key) state]
  cases fault : circumstances.findFault with
  | none => simp [answer, serve, fault]
  | some error => simp [answer, serve, fault]

@[simp]
theorem runFrom_put (key : String) (sample : StoredSample) :
    circumstances.runFrom (α := Except StoreError Unit)
        (Sampling.ask (.put key sample)) state =
      match circumstances.putFault with
      | some error =>
          (.error error, ⟨state.store, state.asked ++ [.put key sample]⟩)
      | none =>
          (.ok (),
            ⟨SampleStore.put state.store circumstances.now key sample,
              state.asked ++ [.put key sample]⟩) := by
  rw [circumstances.runFrom_ask (.put key sample) state]
  cases fault : circumstances.putFault with
  | none => simp [answer, serve, fault]
  | some error => simp [answer, serve, fault]

@[simp]
theorem runFrom_erase (key : String) :
    circumstances.runFrom (α := Except StoreError Unit)
        (Sampling.ask (.erase key)) state =
      match circumstances.eraseFault with
      | some error =>
          (.error error, ⟨state.store, state.asked ++ [.erase key]⟩)
      | none =>
          (.ok (),
            ⟨SampleStore.erase state.store key,
              state.asked ++ [.erase key]⟩) := by
  rw [circumstances.runFrom_ask (.erase key) state]
  cases fault : circumstances.eraseFault with
  | none => simp [answer, serve, fault]
  | some error => simp [answer, serve, fault]

@[simp]
theorem runFrom_report (level : Level) (text : String) :
    circumstances.runFrom (Sampling.report level text) state =
      ((), ⟨state.store, state.asked ++ [.report ⟨level, text⟩]⟩) :=
  circumstances.runFrom_ask (.report ⟨level, text⟩) state

end Requests

/-! ## The parts of a call -/

/-- Forgetting a container drops its sample, unless the store fails. -/
theorem store_forget (circumstances : Circumstances) (id : ContainerId)
    (state : Aftermath Store) :
    (circumstances.runFrom (Sampling.forget id) state).2.store =
      match circumstances.eraseFault with
      | none => SampleStore.erase state.store id.text
      | some _ => state.store := by
  cases erased : circumstances.eraseFault with
  | none => simp [Sampling.forget, erased]
  | some error => simp [Sampling.forget, erased]

/-- A container that has ended is unexpired or expired. -/
theorem ended_outcome (remembered : Duration) (circumstances : Circumstances)
    (inspection : Inspection)
    (inspected : circumstances.inspection = .ok inspection)
    (exited : inspection.status = .exited) (state : Aftermath Store) :
    CallOutcome remembered circumstances state.store
      (.error
        (circumstances.runFrom (Sampling.ended remembered inspection) state).1)
      (circumstances.runFrom
        (Sampling.ended remembered inspection) state).2.store := by
  have kept (recent : inspection.overdue? remembered circumstances.now = none) :
      CallOutcome remembered circumstances state.store
        (.error (.unexpired inspection.id)) state.store :=
    .unexpired inspection inspected exited recent
  unfold Sampling.ended
  cases finished : inspection.finishedAt with
  | none =>
      exact kept (by simp [Inspection.overdue?, finished])
  | some finishedAt =>
      cases forever : remembered.isZero with
      | true =>
          exact kept (by simp [Inspection.overdue?, finished, forever])
      | false =>
          cases past :
              Sampling.expiredAge? remembered finishedAt circumstances.now with
          | none =>
              have recent :
                  inspection.overdue? remembered circumstances.now = none := by
                simp [Inspection.overdue?, finished, forever, past]
              simpa [past] using kept recent
          | some age =>
              have overdue :
                  inspection.overdue? remembered circumstances.now = some age := by
                simp [Inspection.overdue?, finished, forever, past]
              cases fault : circumstances.eraseFault with
              | none =>
                  have dropped :
                      CallOutcome remembered circumstances state.store
                        (.error (.expired inspection.id age))
                        (SampleStore.erase state.store inspection.id.text) :=
                    .expired inspection age inspected exited overdue fault
                  simpa [past, store_forget, fault] using dropped
              | some error =>
                  have notDropped :
                      CallOutcome remembered circumstances state.store
                        (.error (.expired inspection.id age)) state.store :=
                    .expiredKept inspection age error inspected exited overdue
                      fault
                  simpa [past, store_forget, fault] using notDropped

/-- An exchange yields the former sample and stores the new one, unless the
store fails. -/
theorem exchange_result (circumstances : Circumstances) (key : String)
    (sample : StoredSample) (state : Aftermath Store) :
    let after := circumstances.runFrom (Sampling.exchange key sample) state
    (after.1, after.2.store) =
      match circumstances.findFault, circumstances.putFault with
      | some error, _ => (.error error, state.store)
      | none, some error => (.error error, state.store)
      | none, none =>
          (.ok (SampleStore.find? state.store key),
            SampleStore.put state.store circumstances.now key sample) := by
  cases found : circumstances.findFault with
  | some error => simp [Sampling.exchange, found]
  | none =>
      cases stored : circumstances.putFault with
      | some error =>
          cases former : SampleStore.find? state.store key <;>
            simp [Sampling.exchange, found, stored, former, Except.map]
      | none =>
          cases former : SampleStore.find? state.store key <;>
            simp [Sampling.exchange, found, stored, former, Except.map]

/-- A container that has not ended is sampled, unless the raw sample or the
store fails. -/
theorem sampleRunning_outcome (remembered : Duration)
    (circumstances : Circumstances) (inspection : Inspection)
    (inspected : circumstances.inspection = .ok inspection)
    (alive : inspection.status ≠ .exited) (state : Aftermath Store) :
    CallOutcome remembered circumstances state.store
      (circumstances.runFrom (Sampling.sampleRunning inspection) state).1
      (circumstances.runFrom
        (Sampling.sampleRunning inspection) state).2.store := by
  unfold Sampling.sampleRunning
  cases fetched : circumstances.raw with
  | error error =>
      have unfetched :
          CallOutcome remembered circumstances state.store
            (.error (.fetch error)) state.store :=
        .unfetched inspection error inspected alive fetched
      simpa [fetched] using unfetched
  | ok raw =>
      have exchanged :=
        circumstances.exchange_result inspection.id.text raw.stored
          ⟨state.store, state.asked ++ [.fetch inspection]⟩
      cases found : circumstances.findFault with
      | some error =>
          have unfound :
              CallOutcome remembered circumstances state.store
                (.error (.store error)) state.store :=
            .unfound inspection raw error inspected alive fetched found
          simp only [found, Prod.mk.injEq] at exchanged
          simpa [fetched, exchanged.1, exchanged.2] using unfound
      | none =>
          cases stored : circumstances.putFault with
          | some error =>
              have unstored :
                  CallOutcome remembered circumstances state.store
                    (.error (.store error)) state.store :=
                .unstored inspection raw error inspected alive fetched found
                  stored
              simp only [found, stored, Prod.mk.injEq] at exchanged
              simpa [fetched, exchanged.1, exchanged.2] using unstored
          | none =>
              have sampled :
                  CallOutcome remembered circumstances state.store
                    (.ok (.derive inspection raw
                      (SampleStore.find? state.store inspection.id.text)))
                    (SampleStore.put state.store circumstances.now
                      inspection.id.text raw.stored) :=
                .sampled inspection raw inspected alive fetched found stored
              simp only [found, stored, Prod.mk.injEq] at exchanged
              simpa [fetched, exchanged.1, exchanged.2] using sampled

/-- Every call of the sampler ends in one of the listed ways. -/
theorem sample_outcome (remembered : Duration) (circumstances : Circumstances)
    (name : String) (store : Store) :
    CallOutcome remembered circumstances store
      (circumstances.run (Sampling.sample remembered name) store).1
      (circumstances.run (Sampling.sample remembered name) store).2.store := by
  rw [run_eq_runFrom]
  unfold Sampling.sample
  cases inspected : circumstances.inspection with
  | error error =>
      have uninspected :
          CallOutcome remembered circumstances store
            (.error (.inspect error)) store :=
        .uninspected error inspected
      simpa [inspected] using uninspected
  | ok inspection =>
      by_cases exited : inspection.status = .exited
      · have ended :=
          circumstances.ended_outcome remembered inspection inspected exited
            ⟨store, [.inspect name]⟩
        simpa [inspected, exited] using ended
      · have running :=
          circumstances.sampleRunning_outcome remembered inspection inspected
            exited ⟨store, [.inspect name]⟩
        simpa [inspected, exited] using running

end Circumstances

end CgroupMeter
