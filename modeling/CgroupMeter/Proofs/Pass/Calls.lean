import CgroupMeter.Proofs.Json.Line
import CgroupMeter.Proofs.Pass.SampledHost

/-!
# Calls one after another

A pass makes a call for each of its processes.  A call that takes a sample has
a line, and one that takes none has a note.

The calls are made here on a host whose files stay as they are.  A pass makes
the same ones, though it gives output and reports between them, because a call
depends on nothing but the files and what the clock shows to it.
-/

namespace CgroupMeter

/-! ## Calls -/

/-- A call for a process. -/
structure PassCall where
  name : String
  /-- What the clock showed to the call. -/
  shown : List Time
  result : Except SamplingError MetricsSample

namespace PassCall

/-- The line of a call that took a sample. -/
def line (call : PassCall) : List UInt8 :=
  match call.result with
  | .ok sample => sample.print.1 ++ [Text.newline]
  | .error _ => []

/-- What is reported of a call that took no sample. -/
def notes (call : PassCall) : List Report :=
  match call.result with
  | .ok _ => []
  | .error error =>
      if error.isLifecycle then [⟨.info, error.message⟩]
      else [⟨.error, s!"Failed to sample `{call.name}`: {error.message}"⟩]

/-- A sample that a call took is not from before the start of 1970. -/
def IsDated (call : PassCall) : Prop :=
  ∀ sample, call.result = .ok sample → 0 ≤ sample.time.nanos

/-- A call takes no sample, and not because its process is expired. -/
def IsIdle (call : PassCall) : Prop :=
  ∃ error, call.result = .error error ∧ ∀ id age, error ≠ .expired id age

instance (call : PassCall) : Decidable call.IsDated :=
  match taken : call.result with
  | .ok sample =>
      decidable_of_iff (0 ≤ sample.time.nanos) (by simp [IsDated, taken])
  | .error error => isTrue (by simp [IsDated, taken])

instance (call : PassCall) : Decidable call.IsIdle :=
  match ended : call.result with
  | .ok sample => isFalse (by simp [IsIdle, ended])
  | .error (.expired id age) => isFalse (by simp [IsIdle, ended])
  | .error (.unexpired id) => isTrue (by simp [IsIdle, ended])
  | .error (.inspect error) => isTrue (by simp [IsIdle, ended])
  | .error (.fetch error) => isTrue (by simp [IsIdle, ended])
  | .error (.store error) => isTrue (by simp [IsIdle, ended])

/-- When calls last took a sample under a name. -/
def lastTaken (calls : List PassCall) (name : String) : Option Time :=
  (calls.filterMap fun call =>
    if call.name = name then call.result.toOption.map MetricsSample.time
    else none).getLast?

/-- Some idle calls are left out. -/
inductive Thinned : List PassCall → List PassCall → Prop where
  | nil : Thinned [] []
  | keep (call : PassCall) {calls kept : List PassCall} :
      Thinned calls kept → Thinned (call :: calls) (call :: kept)
  | leave {call : PassCall} {calls kept : List PassCall} (idle : call.IsIdle) :
      Thinned calls kept → Thinned (call :: calls) kept

theorem lastTaken_cons (call : PassCall) (calls : List PassCall)
    (name : String) :
    lastTaken (call :: calls) name =
      (lastTaken calls name).or (lastTaken [call] name) := by
  rw [lastTaken, ← List.singleton_append, List.filterMap_append,
    List.getLast?_append]
  rfl

theorem lastTaken_singleton (call : PassCall) (name : String) :
    lastTaken [call] name =
      if call.name = name then call.result.toOption.map MetricsSample.time
      else none := by
  by_cases same : call.name = name
  · cases taken : call.result.toOption with
    | none => simp [lastTaken, same, taken]
    | some sample => simp [lastTaken, same, taken]
  · simp [lastTaken, same]

theorem IsIdle.line_eq_nil {call : PassCall} (idle : call.IsIdle) :
    call.line = [] := by
  rcases idle with ⟨error, ended, -⟩
  rw [line, ended]

theorem Thinned.lines {calls kept : List PassCall}
    (thinned : Thinned calls kept) :
    kept.flatMap line = calls.flatMap line := by
  induction thinned with
  | nil => rfl
  | keep call rest ih => rw [List.flatMap_cons, List.flatMap_cons, ih]
  | leave idle rest ih => rw [List.flatMap_cons, idle.line_eq_nil, ih]; rfl

theorem Thinned.subset {calls kept : List PassCall}
    (thinned : Thinned calls kept) : ∀ call ∈ kept, call ∈ calls := by
  induction thinned with
  | nil => exact fun _ member => member
  | keep call rest ih =>
      intro other member
      rcases List.mem_cons.1 member with rfl | later
      · exact List.mem_cons_self
      · exact List.mem_cons_of_mem _ (ih other later)
  | leave idle rest ih =>
      exact fun other member => List.mem_cons_of_mem _ (ih other member)

/-- All idle calls can be left out. -/
theorem thinned_filter (calls : List PassCall) :
    Thinned calls (calls.filter fun call => ¬ call.IsIdle) := by
  induction calls with
  | nil => exact .nil
  | cons call calls ih =>
      by_cases idle : call.IsIdle
      · rw [List.filter_cons_of_neg (by simp [idle])]
        exact .leave idle ih
      · rw [List.filter_cons_of_pos (by simp [idle])]
        exact .keep call ih

/-- Every note is loud. -/
theorem loud_notes (call : PassCall) :
    call.notes.filter Report.isLoud = call.notes := by
  unfold notes
  split
  · rfl
  · split
    · rfl
    · rfl

/-- A sample has one line, which is an object. -/
theorem line_eq_object {call : PassCall} {sample : MetricsSample}
    (taken : call.result = .ok sample) (dated : call.IsDated) :
    ∃ members, sample.toJson = .ok (.object members) ∧
      call.line = Json.print (.object members) ++ [Text.newline] ∧
      Text.newline ∉ Json.print (.object members) ∧
      Json.parse (Json.print (.object members)) =
        some (Json.asRead (.object members)) := by
  rcases MetricsSample.exists_toJson (dated sample taken) with
    ⟨members, written⟩
  refine ⟨members, written, ?_, Json.newline_not_mem_print _,
    Json.parse_print _⟩
  rw [line, taken]
  simp only [MetricsSample.print, written, Json.printUpTo]

theorem runOn_conclude {call : PassCall} (dated : call.IsDated) (host : Host) :
    ∃ progress, (Pass.conclude call.name call.result).runOn host =
        (.ok (), host.after progress) ∧
      progress.Amounts host.files 0 call.notes call.line := by
  refine ⟨⟨host.files, 0, call.notes, call.line⟩, ?_, rfl, rfl,
    call.loud_notes, rfl⟩
  rcases call with ⟨name, shown, taken | sample⟩
  · unfold Pass.conclude notes line
    simp only
    split
    · simp [Host.after]
    · simp [Host.after]
  · have complete := MetricsSample.print_complete (dated sample rfl)
    simp only [Pass.conclude, Pass.emitLine, complete, if_true, Task.runOn_bind,
      notes, line]
    simp [Host.after]

theorem runOn_conclude_undated {call : PassCall} (undated : ¬ call.IsDated)
    (host : Host) :
    ∃ progress, (Pass.conclude call.name call.result).runOn host =
        (.error (.line .undated), host.after progress) ∧
      progress.files = host.files := by
  rcases call with ⟨name, shown, error | sample⟩
  · exact absurd (fun _ taken => by cases taken) undated
  · have earlier : sample.time.nanos < 0 := by
      by_contra later
      apply undated
      rintro _ ⟨rfl⟩
      exact Int.not_lt.1 later
    have cut := MetricsSample.print_incomplete earlier
    refine ⟨⟨host.files, 0, [], sample.print.1⟩, ?_, rfl⟩
    simp only [Pass.conclude, Pass.emitLine, cut]
    simp [Host.after]

end PassCall

/-! ## The calls of a pass -/

namespace SampledHost

variable {Store : Type} [SampleStore Store] (sampled : SampledHost)
    (remembered : Duration)

/-- The call for a process, and the store after it. -/
def call (name : String) (store : Store) (host : Host) : PassCall × Store :=
  let ran := (sampled.run (Sampling.sample remembered name) store).runOn host
  (⟨name, host.shown (ran.2.readings - host.readings), ran.1.1⟩, ran.1.2)

/-- The calls for processes one after another on a host whose files stay as
they are, and the store after them. -/
def calls : List String → Store → Host → List PassCall × Store
  | [], store, _ => ([], store)
  | name :: rest, store, host =>
      let first := sampled.call remembered name store host
      let others := calls rest first.2 (host.later first.1.shown.length)
      (first.1 :: others.1, others.2)

theorem outcome_call (name : String) (store : Store) (host : Host) :
    sampled.Outcome host.files (sampled.call remembered name store host).1.name
      store (sampled.call remembered name store host).1.result
      (sampled.call remembered name store host).2 :=
  sampled.runOn_sample store host remembered name

/-- The calls are those for the named processes. -/
theorem names_calls (names : List String) (store : Store) (host : Host) :
    (sampled.calls remembered names store host).1.map PassCall.name =
      names := by
  induction names generalizing store host with
  | nil => rfl
  | cons name rest ih => rw [calls, List.map_cons, ih, call]

/-- The clock shows to the calls what it shows to one after another. -/
theorem shows_calls (names : List String) (store : Store) (host : Host) :
    host.Shows ((sampled.calls remembered names store host).1.flatMap
      PassCall.shown) := by
  induction names generalizing store host with
  | nil => exact host.shows_shown 0
  | cons name rest ih =>
      rw [calls, List.flatMap_cons, Host.shows_append_iff]
      exact ⟨host.shows_shown _, ih _ _⟩

section

variable {sampled remembered} {name : String} {names : List String}
    {store : Store} {host other : Host}

theorem call_of_idle
    (idle : (sampled.call remembered name store host).1.IsIdle) :
    (sampled.call remembered name store host).2 = store := by
  rcases idle with ⟨error, ended, unexpired⟩
  have outcome := sampled.outcome_call remembered name store host
  rw [ended] at outcome
  exact outcome.store_eq unexpired

/-- A call depends on nothing but the files and what the clock shows to it. -/
theorem runOn_call
    (shows : other.Shows (sampled.call remembered name store host).1.shown)
    (files : other.files = host.files) :
    let made := sampled.call remembered name store host
    ∃ progress,
      (sampled.run (Sampling.sample remembered name) store).runOn other =
        ((made.1.result, made.2), other.after progress) ∧
      progress.Amounts host.files made.1.shown.length [] [] := by
  have quiet := Sampling.quiet_sample remembered name
  rcases Task.runOn_eq_after_amounts (sampled.quiet_run quiet store)
      (sampled.reading_run _ store) host with
    ⟨⟨result, after⟩, progress, ran, amounts, same⟩
  have shown : (sampled.call remembered name store host).1.shown =
      host.shown progress.readings := by
    simp [call, ran, Host.after]
  have alike : host.Alike other progress.readings := by
    rw [shown, Host.Shows, Host.length_shown] at shows
    exact ⟨files, shows⟩
  refine ⟨progress, ?_, ?_⟩
  · rw [same other alike]
    simp [call, ran]
  · rw [shown, Host.length_shown]
    exact amounts

theorem call_eq_of_shows
    (shows : other.Shows (sampled.call remembered name store host).1.shown)
    (files : other.files = host.files) :
    sampled.call remembered name store other =
      sampled.call remembered name store host := by
  rcases runOn_call shows files with ⟨progress, ran, amounts⟩
  have shown : other.shown progress.readings =
      (sampled.call remembered name store host).1.shown := by
    rw [amounts.readings]
    exact shows
  rw [call, ran]
  simp only [Host.after, Nat.add_sub_cancel_left, shown]
  rfl

/-- Idle calls that are left out leave no trace on the others, nor on the
store. -/
theorem calls_of_thinned {kept : List PassCall}
    (thinned :
      PassCall.Thinned (sampled.calls remembered names store host).1 kept)
    (shows : other.Shows (kept.flatMap PassCall.shown))
    (files : other.files = host.files) :
    sampled.calls remembered (kept.map PassCall.name) store other =
      (kept, (sampled.calls remembered names store host).2) := by
  -- A call that is left out takes readings of one clock only, so the two hosts
  -- go on from different readings.
  induction names generalizing store host other kept with
  | nil =>
      cases thinned
      rfl
  | cons name rest ih =>
      rw [calls] at thinned ⊢
      simp only at thinned ⊢
      cases thinned with
      | keep first others =>
          rw [List.flatMap_cons, Host.shows_append_iff] at shows
          have behind := ih others shows.2 files
          change sampled.calls remembered (name :: _) store other = _
          rw [calls, call_eq_of_shows shows.1 files, behind]
      | leave idle others =>
          rw [call_of_idle idle] at others ⊢
          exact ih others shows files

/-- A pass makes the first call and concludes it. -/
theorem runOn_sampleAll_cons (names : List String)
    (shows : other.Shows (sampled.call remembered name store host).1.shown)
    (files : other.files = host.files) :
    let made := sampled.call remembered name store host
    ∃ progress,
      (Pass.sampleAll sampled remembered (name :: names) store).runOn other =
        Task.runOn (α := Except PassError Store) (do
            match ← Pass.conclude made.1.name made.1.result with
            | .error error => return .error error
            | .ok () => Pass.sampleAll sampled remembered names made.2)
          (other.after progress) ∧
      progress.Amounts host.files made.1.shown.length [] [] := by
  rcases runOn_call shows files with ⟨progress, ran, amounts⟩
  refine ⟨progress, ?_, amounts⟩
  rw [Pass.sampleAll, Task.runOn_bind, ran]
  rfl

/-- After a call whose line is not cut off, a pass goes on. -/
theorem runOn_sampleAll_dated (names : List String)
    (shows : other.Shows (sampled.call remembered name store host).1.shown)
    (files : other.files = host.files)
    (dated : (sampled.call remembered name store host).1.IsDated) :
    let made := sampled.call remembered name store host
    ∃ progress,
      (Pass.sampleAll sampled remembered (name :: names) store).runOn other =
        (Pass.sampleAll sampled remembered names made.2).runOn
          (other.after progress) ∧
      progress.Amounts host.files made.1.shown.length made.1.notes
        made.1.line := by
  rcases runOn_sampleAll_cons names shows files with ⟨called, ran, amounts⟩
  rcases PassCall.runOn_conclude dated (other.after called) with
    ⟨concluded, gave, more⟩
  have placed : (other.after called).files = host.files := amounts.files
  rw [placed] at more
  refine ⟨called.append concluded, ?_, amounts.append more⟩
  rw [ran, Task.runOn_bind, gave, Progress.after_append]

/-- A pass makes the calls, and gives their lines and notes, when no line is
cut off. -/
theorem runOn_sampleAll
    (shows : other.Shows ((sampled.calls remembered names store host).1.flatMap
      PassCall.shown))
    (files : other.files = host.files)
    (dated : ∀ made ∈ (sampled.calls remembered names store host).1,
      made.IsDated) :
    let made := sampled.calls remembered names store host
    ∃ progress,
      (Pass.sampleAll sampled remembered names store).runOn other =
        (.ok made.2, other.after progress) ∧
      progress.Amounts host.files (made.1.flatMap PassCall.shown).length
        (made.1.flatMap PassCall.notes) (made.1.flatMap PassCall.line) := by
  induction names generalizing store host other with
  | nil =>
      refine ⟨.none other.files, ?_, ?_⟩
      · rw [Progress.after_none]
        rfl
      · rw [files]
        exact Progress.amounts_none host.files
  | cons name rest ih =>
      rw [calls] at dated shows ⊢
      simp only [List.flatMap_cons, List.forall_mem_cons,
        Host.shows_append_iff] at dated shows ⊢
      rcases runOn_sampleAll_dated rest shows.1 files dated.1 with
        ⟨first, ran, amounts⟩
      rcases ih (amounts.shows shows.2) amounts.files dated.2 with
        ⟨behind, ranBehind, amountsBehind⟩
      refine ⟨first.append behind, ?_, ?_⟩
      · rw [ran, ranBehind, Progress.after_append]
      · rw [List.length_append]
        exact amounts.append amountsBehind

/-- A sample from before the start of 1970 ends a pass. -/
theorem runOn_sampleAll_undated
    (shows : other.Shows ((sampled.calls remembered names store host).1.flatMap
      PassCall.shown))
    (files : other.files = host.files)
    (undated : ∃ made ∈ (sampled.calls remembered names store host).1,
      ¬ made.IsDated) :
    ∃ progress,
      (Pass.sampleAll sampled remembered names store).runOn other =
        (.error (.line .undated), other.after progress) ∧
      progress.files = host.files := by
  induction names generalizing store host other with
  | nil =>
      rcases undated with ⟨made, member, -⟩
      cases member
  | cons name rest ih =>
      rw [calls] at undated shows
      simp only [List.flatMap_cons, Host.shows_append_iff] at undated shows
      by_cases dated : (sampled.call remembered name store host).1.IsDated
      · rcases runOn_sampleAll_dated rest shows.1 files dated with
          ⟨first, ran, amounts⟩
        rcases undated with ⟨made, member, early⟩
        rcases List.mem_cons.1 member with rfl | behind
        · exact absurd dated early
        · rcases ih (amounts.shows shows.2) amounts.files ⟨made, behind, early⟩
            with ⟨progress, ranBehind, unchanged⟩
          refine ⟨first.append progress, ?_, unchanged⟩
          rw [ran, ranBehind, Progress.after_append]
      · rcases runOn_sampleAll_cons rest shows.1 files with
          ⟨called, ran, amounts⟩
        rcases PassCall.runOn_conclude_undated dated (other.after called) with
          ⟨cut, gave, unchanged⟩
        refine ⟨called.append cut, ?_, unchanged.trans amounts.files⟩
        rw [ran, Task.runOn_bind, gave, Progress.after_append, Task.runOn_pure]

/-- Every call ends in one of the listed ways, from some store. -/
theorem outcome_of_mem_calls {made : PassCall}
    (member : made ∈ (sampled.calls remembered names store host).1) :
    ∃ before after : Store,
      sampled.Outcome host.files made.name before made.result after := by
  induction names generalizing store host with
  | nil => cases member
  | cons name rest ih =>
      rw [calls] at member
      rcases List.mem_cons.1 member with rfl | behind
      · exact ⟨_, _, sampled.outcome_call remembered name store host⟩
      · have ended := ih behind
        exact ended

/-- The calls that take a sample are those for the processes of which one can
be taken. -/
theorem taken_iff {made : PassCall}
    (member : made ∈ (sampled.calls remembered names store host).1) :
    (∃ sample, made.result = .ok sample) ↔
      ∃ inspection raw,
        sampled.CanSample host.files made.name inspection raw := by
  rcases outcome_of_mem_calls member with ⟨before, after, outcome⟩
  generalize made.result = result at outcome ⊢
  cases outcome with
  | failed error cannot unexpired => simp [cannot]
  | expired id age cannot => simp [cannot]
  | sampled inspection raw now can =>
      exact ⟨fun _ => ⟨inspection, raw, can⟩, fun _ => ⟨_, rfl⟩⟩

/-- What is stored under a name that can be sampled, after a call. -/
theorem Outcome.find?_eq [LawfulSampleStore Store] {made : PassCall}
    {files : FileTree} {after : Store} {other : String}
    {inspection : Inspection} {raw : RawSample}
    (outcome : sampled.Outcome files made.name store made.result after)
    (can : sampled.CanSample files other inspection raw) :
    SampleStore.find? after other =
      ((PassCall.lastTaken [made] other).map fun time => ⟨time, raw.cpu⟩).or
        (SampleStore.find? store other) := by
  rcases made with ⟨name, shown, result⟩
  simp only [PassCall.lastTaken_singleton] at outcome ⊢
  cases outcome with
  | failed error cannot unexpired => simp [Except.toOption]
  | expired id age cannot =>
      have differs : name ≠ other := by
        rintro rfl
        exact cannot _ _ can
      simp [LawfulSampleStore.find?_erase, differs]
  | sampled inspected taken now able =>
      rw [LawfulSampleStore.find?_put]
      by_cases same : name = other
      · subst same
        rw [if_pos rfl, if_pos rfl]
        have cpu := can.cpu_eq able
        simp [Except.toOption, MetricsSample.derive, RawSample.stored, cpu]
      · simp [same]

/-- A sample is compared with the last one that was taken under its name in
the same pass, and else with the stored one. -/
theorem compared_calls [LawfulSampleStore Store] {made : PassCall}
    {before behind : List PassCall} {sample : MetricsSample}
    (split : (sampled.calls remembered names store host).1 =
      before ++ made :: behind)
    (taken : made.result = .ok sample) :
    ∃ inspection raw, sampled.CanSample host.files made.name inspection raw ∧
      sample = .derive inspection raw
        (((PassCall.lastTaken before made.name).map fun time =>
          ⟨time, raw.cpu⟩).or (SampleStore.find? store made.name)) := by
  -- By the calls before: each of them leaves in the store what it took last.
  induction before generalizing names store host with
  | nil =>
      cases names with
      | nil => cases split
      | cons name rest =>
          rw [calls, List.nil_append] at split
          rcases List.cons.inj split with ⟨rfl, -⟩
          have outcome := sampled.outcome_call remembered name store host
          rw [taken] at outcome
          exact outcome.exists_eq_derive
  | cons first before ih =>
      cases names with
      | nil => cases split
      | cons name rest =>
          rw [calls, List.cons_append] at split
          rcases List.cons.inj split with ⟨rfl, behind⟩
          rcases ih behind with ⟨inspection, raw, can, compared⟩
          refine ⟨inspection, raw, can, ?_⟩
          have able : sampled.CanSample host.files made.name inspection raw :=
            can
          have outcome := sampled.outcome_call remembered name store host
          rw [compared, PassCall.lastTaken_cons, outcome.find?_eq able,
            Option.map_or, Option.or_assoc]

end

end SampledHost

end CgroupMeter
