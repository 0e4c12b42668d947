import CgroupMeter.Proofs.Host.Progress
import CgroupMeter.Proofs.Host.Quiet
import CgroupMeter.Proofs.Pass.Mirror
import CgroupMeter.Proofs.Sample.Accounts

/-!
# Sampling on a host

To sample a process is to read the host and to change nothing on it.  Whether
a process is sampled depends on the files alone, and what becomes of the store
is one of few outcomes.
-/

namespace CgroupMeter

open Program

/-! ## Sampling only reads -/

/-- A request makes no loud report. -/
def SamplingRequest.IsQuiet : SamplingRequest → Prop
  | .report made => made.isLoud = false
  | _ => True

namespace Sampling

theorem quiet_report {level : Level} (silent : level ≠ .info ∧ level ≠ .error)
    (text : String) : (report level text).Only SamplingRequest.IsQuiet := by
  apply only_request
  simp [SamplingRequest.IsQuiet, Report.isLoud, silent]

theorem quiet_ended (remembered : Duration) (inspection : Inspection) :
    (ended remembered inspection).Only SamplingRequest.IsQuiet := by
  have forgets : (forget inspection.id).Only SamplingRequest.IsQuiet := by
    refine within_bind (only_request trivial) ?_
    rintro (error | dropped)
    · exact quiet_report (by decide) _
    · exact within_pure _
  unfold ended
  simp only
  split
  · exact within_pure _
  · split
    · exact within_pure _
    · refine within_bind (only_request trivial) fun now => ?_
      split
      · exact within_pure _
      · refine within_bind (quiet_report (by decide) _) fun _ => ?_
        exact within_bind forgets fun _ => within_pure _

theorem quiet_exchange (key : String) (sample : StoredSample) :
    (exchange key sample).Only SamplingRequest.IsQuiet := by
  refine within_bind (only_request trivial) ?_
  rintro (error | previous)
  · exact within_pure _
  · simp only
    split
    · refine within_bind (quiet_report (by decide) _) fun _ => ?_
      exact within_bind (only_request trivial) fun _ => within_pure _
    · exact within_bind (only_request trivial) fun _ => within_pure _

theorem quiet_sampleRunning (inspection : Inspection) :
    (sampleRunning inspection).Only SamplingRequest.IsQuiet := by
  refine within_bind (only_request trivial) ?_
  rintro (error | raw)
  · exact within_pure _
  · refine within_bind (quiet_exchange _ _) ?_
    rintro (error | previous)
    · exact within_pure _
    · exact within_pure _

theorem quiet_sample (remembered : Duration) (name : String) :
    (sample remembered name).Only SamplingRequest.IsQuiet := by
  refine within_bind (only_request trivial) ?_
  rintro (error | inspection)
  · exact within_pure _
  · simp only
    split
    · exact within_bind (quiet_ended remembered inspection) fun _ =>
        within_pure _
    · exact quiet_sampleRunning inspection

end Sampling

theorem HostProcess.quiet_inspect (root : Path) (name : String) (now : Time) :
    (inspect root name now).Only Query.IsQuiet := by
  unfold inspect
  split
  · exact within_pure _
  · exact within_pure _
  · exact within_bind
      (Inquiry.quiet_of_detail (Inquiry.detail_isDirectory _)) fun _ =>
        within_pure _

namespace SampledHost

variable {Store : Type} [SampleStore Store] {α : Type} (sampled : SampledHost)

/-- A sampling program acts as the answers to its requests do. -/
theorem only_run {allowed : SamplingRequest → Prop} {permitted : Action → Prop}
    (handled : ∀ asked, allowed asked → ∀ store : Store,
      (sampled.answer asked store).Only permitted)
    {program : Sampling α} (only : program.Only allowed) (store : Store) :
    (sampled.run program store).Only permitted := by
  induction program generalizing store with
  | done value => exact within_pure _
  | ask asked next ih =>
      have split : sampled.run (Program.ask asked next) store =
          sampled.answer asked store >>= fun outcome =>
            sampled.run (next outcome.1) outcome.2 := rfl
      rw [split]
      refine within_bind (handled asked only.1 store) ?_
      rintro ⟨given, after⟩
      exact ih given (only.2 given trivial) after

theorem reading_answer (asked : SamplingRequest) (store : Store) :
    (sampled.answer asked store).Only Action.IsReading := by
  cases asked with
  | inspect name =>
      refine within_bind Task.reading_readClock fun _ => ?_
      exact within_bind (Task.reading_ofInquiry _) fun _ => within_pure _
  | fetch inspection =>
      refine within_bind Task.reading_readClock fun _ => ?_
      exact within_bind (Task.reading_ofInquiry _) fun _ => within_pure _
  | readClock => exact within_bind Task.reading_readClock fun _ => within_pure _
  | find key => exact within_pure _
  | put key sample =>
      exact within_bind Task.reading_readClock fun _ => within_pure _
  | erase key => exact within_pure _
  | report made =>
      exact within_bind (Task.reading_ofInquiry _) fun _ => within_pure _

theorem quiet_answer {asked : SamplingRequest} (quiet : asked.IsQuiet)
    (store : Store) : (sampled.answer asked store).Only Action.IsQuiet := by
  cases asked with
  | inspect name =>
      refine within_bind Task.quiet_readClock fun _ => ?_
      refine within_bind (Task.quiet_ofInquiry ?_) fun _ => within_pure _
      exact HostProcess.quiet_inspect _ _ _
  | fetch inspection =>
      refine within_bind Task.quiet_readClock fun _ => ?_
      refine within_bind (Task.quiet_ofInquiry ?_) fun _ => within_pure _
      exact RawSample.quiet_fetch _ _ _ _
  | readClock => exact within_bind Task.quiet_readClock fun _ => within_pure _
  | find key => exact within_pure _
  | put key sample =>
      exact within_bind Task.quiet_readClock fun _ => within_pure _
  | erase key => exact within_pure _
  | report made =>
      refine within_bind (Task.quiet_ofInquiry ?_) fun _ => within_pure _
      exact only_request quiet

theorem reading_run (program : Sampling α) (store : Store) :
    (sampled.run program store).Only Action.IsReading := by
  have any : program.Only fun _ => True := by
    induction program with
    | done value => exact within_pure _
    | ask asked next ih => exact ⟨trivial, fun given _ => ih given⟩
  exact sampled.only_run (fun asked _ => sampled.reading_answer asked) any store

theorem quiet_run {program : Sampling α}
    (quiet : program.Only SamplingRequest.IsQuiet) (store : Store) :
    (sampled.run program store).Only Action.IsQuiet :=
  sampled.only_run (fun _ => sampled.quiet_answer) quiet store

end SampledHost

/-! ## How a call ends -/

namespace HostProcess

variable {root : Path} {name : String} {now : Time} {files : FileTree}
    {inspection : Inspection}

theorem id_of_inspect
    (inspected : (inspect root name now).found files = .ok inspection) :
    inspection.id.text = name := by
  unfold inspect at inspected
  split at inspected
  · cases inspected
  · cases inspected
  · rename_i pid id read named
    rw [Inquiry.found, eval_bind] at inspected
    cases inspected
    simp only [ContainerId.ofText] at named
    split at named
    · rename_i found valid
      cases named
      exact ContainerId.ofText?_eq_some_iff.1 valid
    · cases named

/-- A process that runs is inspected alike at any time. -/
theorem inspect_of_alive
    (inspected : (inspect root name now).found files = .ok inspection)
    (alive : inspection.status ≠ .exited) (later : Time) :
    (inspect root name later).found files = .ok inspection := by
  unfold inspect at inspected ⊢
  split at inspected
  · cases inspected
  · cases inspected
  · rename_i pid id read named
    rw [Inquiry.found, eval_bind] at inspected ⊢
    cases inspected
    cases runs : eval files.view (Inquiry.isDirectory (directory root pid)) with
    | false => simp [runs] at alive
    | true => simp

end HostProcess

/-- A sample that can be taken can be taken at any time, and its counters are
the same then. -/
theorem RawSample.fetch_at {layout : GroupLayout} {root : Path} {time : Time}
    {inspection : Inspection} {files : FileTree} {raw : RawSample}
    (fetched : (fetch layout root time inspection).found files = .ok raw)
    (later : Time) :
    raw.time = time ∧
      (fetch layout root later inspection).found files =
        .ok { raw with time := later } := by
  rcases (found_fetch_eq_ok_iff layout root inspection time files).1 fetched with
    ⟨present, locations, network, located, counted, rfl⟩
  exact ⟨rfl, (found_fetch_eq_ok_iff layout root inspection later files).2
    ⟨present, locations, network, located, counted, rfl⟩⟩

namespace SampledHost

/-- A process runs, and a raw sample of it can be taken. -/
structure CanSample (sampled : SampledHost) (files : FileTree) (name : String)
    (inspection : Inspection) (raw : RawSample) : Prop where
  inspected : ∀ now,
    (HostProcess.inspect sampled.root name now).found files = .ok inspection
  alive : inspection.status ≠ .exited
  fetched : (RawSample.fetch sampled.layout sampled.root raw.time
    inspection).found files = .ok raw

/-- The counters of a process do not depend on when they are taken. -/
theorem CanSample.cpu_eq {sampled : SampledHost} {files : FileTree}
    {name : String} {inspection other : Inspection} {raw another : RawSample}
    (can : sampled.CanSample files name inspection raw)
    (canToo : sampled.CanSample files name other another) :
    another.cpu = raw.cpu := by
  obtain rfl : inspection = other :=
    Except.ok.inj ((can.inspected ⟨0⟩).symm.trans (canToo.inspected ⟨0⟩))
  have same := (RawSample.fetch_at can.fetched another.time).2
  rw [canToo.fetched, Except.ok.injEq] at same
  rw [same]

/-- The ways in which the call for a process ends, with the result and the
store after it. -/
inductive Outcome {Store : Type} [SampleStore Store] (sampled : SampledHost)
    (files : FileTree) (name : String) (store : Store) :
    Except SamplingError MetricsSample → Store → Prop where
  | failed (error : SamplingError)
      (cannot : ∀ inspection raw,
        ¬ sampled.CanSample files name inspection raw)
      (unexpired : ∀ id age, error ≠ .expired id age) :
      Outcome sampled files name store (.error error) store
  | expired (id : ContainerId) (age : Duration)
      (cannot : ∀ inspection raw,
        ¬ sampled.CanSample files name inspection raw) :
      Outcome sampled files name store (.error (.expired id age))
        (SampleStore.erase store name)
  | sampled (inspection : Inspection) (raw : RawSample) (now : Time)
      (can : sampled.CanSample files name inspection raw) :
      Outcome sampled files name store
        (.ok (.derive inspection raw (SampleStore.find? store name)))
        (SampleStore.put store now name raw.stored)

section

variable {Store : Type} [SampleStore Store] {sampled : SampledHost}
    {files : FileTree} {name : String} {store after : Store}

theorem Outcome.exists_eq_derive {sample : MetricsSample}
    (outcome : sampled.Outcome files name store (.ok sample) after) :
    ∃ inspection raw, sampled.CanSample files name inspection raw ∧
      sample = .derive inspection raw (SampleStore.find? store name) := by
  cases outcome with
  | sampled inspection raw now can => exact ⟨inspection, raw, can, rfl⟩

theorem Outcome.store_eq {error : SamplingError}
    (outcome : sampled.Outcome files name store (.error error) after)
    (unexpired : ∀ id age, error ≠ .expired id age) : after = store := by
  cases outcome with
  | failed error cannot other => rfl
  | expired id age cannot => exact absurd rfl (unexpired id age)

end

variable {Store : Type} [SampleStore Store] (sampled : SampledHost)

section Requests

variable {α β : Type} (store : Store) (host : Host)

theorem runOn_run_pure (value : α) :
    (sampled.run (pure value) store).runOn host = ((value, store), host) := rfl

theorem runOn_run_bind (program : Sampling α) (next : α → Sampling β) :
    (sampled.run (program >>= next) store).runOn host =
      let ran := (sampled.run program store).runOn host
      (sampled.run (next ran.1.1) ran.1.2).runOn ran.2 := by
  rw [run_bind, Task.runOn_bind]

theorem runOn_inspect (name : String) :
    ((sampled.run (α := Except ContainerError Inspection)
        (Sampling.ask (.inspect name)) store).runOn host).1 =
      ((HostProcess.inspect sampled.root name
        (host.clock host.readings)).found host.files, store) := by
  rw [run_ask]
  simp [answer]

theorem runOn_fetch (inspection : Inspection) :
    ((sampled.run (α := Except FetchError RawSample)
        (Sampling.ask (.fetch inspection)) store).runOn host).1 =
      ((RawSample.fetch sampled.layout sampled.root
        (host.clock host.readings) inspection).found host.files, store) := by
  rw [run_ask]
  simp [answer]

theorem runOn_find (key : String) :
    (sampled.run (α := Except StoreError (Option StoredSample))
        (Sampling.ask (.find key)) store).runOn host =
      ((.ok (SampleStore.find? store key), store), host) := by
  rw [run_ask]
  rfl

theorem runOn_put (key : String) (sample : StoredSample) :
    ((sampled.run (α := Except StoreError Unit)
        (Sampling.ask (.put key sample)) store).runOn host).1 =
      (.ok (), SampleStore.put store (host.clock host.readings) key sample) := by
  rw [run_ask]
  simp [answer]

theorem runOn_erase (key : String) :
    ((sampled.run (α := Except StoreError Unit)
        (Sampling.ask (.erase key)) store).runOn host).1 =
      (.ok (), SampleStore.erase store key) := by
  rw [run_ask]
  rfl

theorem runOn_readClock :
    ((sampled.run (α := Time) (Sampling.ask .readClock) store).runOn host).1 =
      (host.clock host.readings, store) := by
  rw [run_ask]
  simp [answer]

theorem runOn_report (level : Level) (text : String) :
    ((sampled.run (Sampling.report level text) store).runOn host).1 =
      ((), store) := by
  rw [Sampling.report, run_ask]
  simp [answer]

end Requests

variable (store : Store) (host : Host)

/-- A process that has ended is unexpired, or expired and forgotten. -/
theorem runOn_ended (remembered : Duration) (inspection : Inspection) :
    let ran := (sampled.run (Sampling.ended remembered inspection) store).runOn
      host
    ran.1 = (.unexpired inspection.id, store) ∨
      ∃ age, ran.1 = (.expired inspection.id age,
        SampleStore.erase store inspection.id.text) := by
  simp only [Sampling.ended]
  split
  · exact Or.inl rfl
  · split
    · exact Or.inl rfl
    · simp only [runOn_run_bind, runOn_readClock]
      split
      · exact Or.inl rfl
      · rename_i age past
        refine Or.inr ⟨age, ?_⟩
        simp only [Sampling.forget, runOn_run_bind, runOn_report, runOn_erase,
          runOn_run_pure]

/-- An exchange finds the former sample and stores the new one. -/
theorem runOn_exchange (key : String) (sample : StoredSample) :
    ∃ now, ((sampled.run (Sampling.exchange key sample) store).runOn host).1 =
      (.ok (SampleStore.find? store key),
        SampleStore.put store now key sample) := by
  simp only [Sampling.exchange, runOn_run_bind, runOn_find]
  split
  · simp only [runOn_run_bind, runOn_report, runOn_put, runOn_run_pure]
    exact ⟨_, rfl⟩
  · simp only [runOn_run_bind, runOn_put, runOn_run_pure]
    exact ⟨_, rfl⟩

/-- A process that runs is sampled when a raw sample of it can be taken. -/
theorem runOn_sampleRunning (inspection : Inspection) :
    let ran := (sampled.run (Sampling.sampleRunning inspection) store).runOn host
    match (RawSample.fetch sampled.layout sampled.root
      (host.clock host.readings) inspection).found host.files with
    | .error error => ran.1 = (.error (.fetch error), store)
    | .ok raw => ∃ now, ran.1 =
        (.ok (.derive inspection raw
            (SampleStore.find? store inspection.id.text)),
          SampleStore.put store now inspection.id.text raw.stored) := by
  simp only [Sampling.sampleRunning, runOn_run_bind, runOn_fetch]
  generalize (RawSample.fetch sampled.layout sampled.root
    (host.clock host.readings) inspection).found host.files = fetched
  cases fetched with
  | error error => rfl
  | ok raw =>
      simp only [runOn_run_bind]
      generalize ((sampled.run (Sampling.ask (.fetch inspection)) store).runOn
        host).2 = left
      rcases sampled.runOn_exchange store left inspection.id.text raw.stored with
        ⟨now, exchanged⟩
      refine ⟨now, ?_⟩
      simp only [exchanged, runOn_run_pure]

/-- The call for a process ends in one of the listed ways. -/
theorem runOn_sample (remembered : Duration) (name : String) :
    let ran := (sampled.run (Sampling.sample remembered name) store).runOn host
    sampled.Outcome host.files name store ran.1.1 ran.1.2 := by
  simp only [Sampling.sample, runOn_run_bind, runOn_inspect]
  cases inspected : (HostProcess.inspect sampled.root name
      (host.clock host.readings)).found host.files with
  | error error =>
      refine .failed _ ?_ (by simp)
      intro inspection raw can
      rw [can.inspected] at inspected
      cases inspected
  | ok inspection =>
      have named := HostProcess.id_of_inspect inspected
      have files := (Task.unchanged_runOn
        (sampled.reading_run (Sampling.ask (.inspect name)) store) host).1
      generalize ((sampled.run (Sampling.ask (.inspect name)) store).runOn
        host).2 = left at files ⊢
      simp only
      split
      · rename_i exited
        have cannot : ∀ inspection raw,
            ¬ sampled.CanSample host.files name inspection raw := by
          intro other raw can
          rw [can.inspected] at inspected
          cases inspected
          exact can.alive exited
        simp only [runOn_run_bind, runOn_run_pure]
        rcases sampled.runOn_ended store left remembered inspection with
          unexpired | ⟨age, expired⟩
        · rw [unexpired]
          exact .failed _ cannot (by simp)
        · rw [expired, named]
          exact .expired _ age cannot
      · rename_i alive
        have running := sampled.runOn_sampleRunning store left inspection
        simp only [files, named] at running
        cases fetched : (RawSample.fetch sampled.layout sampled.root
            (left.clock left.readings) inspection).found host.files with
        | error error =>
            rw [fetched] at running
            rw [running]
            refine .failed _ ?_ (by simp)
            intro other raw can
            rw [can.inspected] at inspected
            cases inspected
            rw [(RawSample.fetch_at can.fetched _).2] at fetched
            cases fetched
        | ok raw =>
            rw [fetched] at running
            rcases running with ⟨now, running⟩
            rw [running]
            refine .sampled inspection raw now ⟨?_, alive, ?_⟩
            · exact HostProcess.inspect_of_alive inspected alive
            · rw [(RawSample.fetch_at fetched ⟨0⟩).1]
              exact fetched

end SampledHost

end CgroupMeter
