import CgroupMeter.Proofs.Pass.Calls
import CgroupMeter.Proofs.Pass.Restart

/-!
# The account of a pass

Once a pass knows the layout and has opened its store, the calls for its
processes tell all there is to it: its lines, its notes, and the store that it
saves.  Before that, a pass that fails has changed nothing.

An idle call leaves no trace.  A pass that leaves out some of them gives the
same lines and saves the same store, when the clock shows to the others what it
showed to them before.
-/

namespace CgroupMeter

/-- A host is left as it was, but for reports that are not loud. -/
structure Host.Untouched (host left : Host) : Prop where
  files : left.files = host.files
  notes : left.reports.filter Report.isLoud =
    host.reports.filter Report.isLoud
  output : left.output = host.output

theorem Progress.Amounts.untouched {host : Host} {progress : Progress}
    {readings : Nat} (amounts : progress.Amounts host.files readings [] []) :
    host.Untouched (host.after progress) := by
  refine ⟨amounts.files, ?_, ?_⟩
  · simp [Host.after, amounts.notes]
  · simp [Host.after, amounts.lines]

namespace FileStore

/-- Saving is quiet, gives no output, and depends on nothing but the files and
one reading of the clock. -/
theorem runOn_save (store : FileStore) {host other : Host}
    (alike : host.Alike other 1) :
    ∃ progress, progress.Amounts progress.files 1 [] [] ∧
      store.save.runOn host = ((store.save.runOn host).1, host.after progress) ∧
      store.save.runOn other =
        ((store.save.runOn host).1, other.after progress) := by
  rcases store.save.runOn_eq_after host with ⟨value, progress, ran, same⟩
  rcases store.save_outcome host with ⟨-, files, reports, left, -⟩
  have silent := Task.loud_runOn store.quiet_save host
  rw [ran] at left silent
  have readings : progress.readings = 1 :=
    Nat.add_left_cancel (congrArg Host.readings left)
  have output : progress.output = [] :=
    List.append_right_eq_self.1 (congrArg Host.output left)
  simp only [Host.after, List.filter_append, List.append_right_eq_self]
    at silent
  refine ⟨progress, ⟨rfl, readings, silent, output⟩, ?_, ?_⟩
  · rw [ran]
  · rw [ran, same other (readings ▸ alike)]

end FileStore

/-! ## The account -/

namespace Pass

variable {settings : Settings} {names : List String} {host : Host}

/-- What a pass with an open store comes to, told by its calls and the store
after them. -/
structure Account (sampled : SampledHost) (store : FileStore) (host : Host)
    (calls : List PassCall) (after : FileStore)
    (ran : Except PassError Unit × Host) : Prop where
  /-- A call takes a sample when a process runs of which one can be taken. -/
  taken : ∀ call ∈ calls, (∃ sample, call.result = .ok sample) ↔
    ∃ inspection raw, sampled.CanSample host.files call.name inspection raw
  /-- A sample is compared with the last one of its name in the same pass, and
  else with the stored one. -/
  compared : ∀ before call behind sample, calls = before ++ call :: behind →
    call.result = .ok sample →
      ∃ inspection raw, sampled.CanSample host.files call.name inspection raw ∧
        sample = .derive inspection raw
          (((PassCall.lastTaken before call.name).map fun time =>
            ⟨time, raw.cpu⟩).or (SampleStore.find? store call.name))
  /-- The line of a sample is one object. -/
  object : ∀ call ∈ calls, ∀ sample, call.result = .ok sample →
    ∃ members, sample.toJson = .ok (.object members) ∧
      call.line = Json.print (.object members) ++ [Text.newline] ∧
      Text.newline ∉ Json.print (.object members) ∧
      Json.parse (Json.print (.object members)) =
        some (Json.asRead (.object members))
  output : ran.2.output = host.output ++ calls.flatMap PassCall.line
  notes : ran.2.reports.filter Report.isLoud =
    host.reports.filter Report.isLoud ++ calls.flatMap PassCall.notes
  /-- All that becomes of the files is that the store is saved, once and after
  the calls. -/
  saved :
    let left := after.save.runOn
      (host.later (calls.flatMap PassCall.shown).length)
    ran.1 = left.1.2.mapError .store ∧ ran.2.files = left.2.files ∧
      ran.2.readings = left.2.readings

variable {layout : GroupLayout} {store : FileStore}

/-- When no line is cut off, a pass comes to its account. -/
theorem account_of_run
    (found : (findLayout settings).found host.files = .ok layout)
    (opened : (FileStore.openAt settings.storePath settings.lifetime).found
      host.files = .ok store) {calls : List PassCall} {after : FileStore}
    (made : SampledHost.calls ⟨settings.root, layout⟩ settings.remembered names
      store host = (calls, after))
    (dated : ∀ call ∈ calls, call.IsDated) :
    Account ⟨settings.root, layout⟩ store host calls after
      ((run settings names).runOn host) := by
  rcases runOn_collect_eq settings names host with ⟨before, prepared, collected⟩
  rw [found, opened] at collected
  simp only at collected
  -- The pass has added reports to its host by now, and nothing else, so that
  -- its calls are those that were made on the host as it was.
  have shows := SampledHost.shows_calls ⟨settings.root, layout⟩
    settings.remembered names store host
  have sampled := SampledHost.runOn_sampleAll (prepared.shows shows)
    prepared.files (by rwa [made])
  rw [made] at sampled
  rcases sampled with ⟨called, ran, amounts⟩
  have total := prepared.append amounts
  rw [Nat.zero_add, List.nil_append, List.nil_append] at total
  rw [ran, ← Progress.after_append] at collected
  rcases after.runOn_save (total.alike 1) with ⟨saving, quiet, onLater, onLeft⟩
  have whole : (run settings names).runOn host =
      ((after.save.runOn (host.later (calls.flatMap
          PassCall.shown).length)).1.2.mapError .store,
        (host.after (before.append called)).after saving) := by
    rw [run_eq, Task.runOn_bind, collected]
    simp only [saveCollected, Task.runOn_bind, Task.runOn_pure, onLeft]
  rw [whole]
  refine ⟨?_, ?_, ?_, ?_, ?_, rfl, ?_, ?_⟩
  · intro call member
    exact SampledHost.taken_iff (by rw [made]; exact member)
  · intro earlier call behind sample split taken
    exact SampledHost.compared_calls (by rw [made]; exact split) taken
  · intro call member sample taken
    exact PassCall.line_eq_object taken (dated call member)
  · simp [Host.after, total.lines, quiet.lines]
  · simp [Host.after, total.notes, quiet.notes]
  · rw [onLater]
    rfl
  · rw [onLater]
    simp [Host.after, Host.later, total.readings]

/-- A pass that leaves out idle calls saves the same store, when the clock
shows to the others what it showed to them. -/
theorem account_of_thinned
    (found : (findLayout settings).found host.files = .ok layout)
    (opened : (FileStore.openAt settings.storePath settings.lifetime).found
      host.files = .ok store) {calls kept : List PassCall} {after : FileStore}
    (made : SampledHost.calls ⟨settings.root, layout⟩ settings.remembered names
      store host = (calls, after))
    (dated : ∀ call ∈ calls, call.IsDated)
    (thinned : PassCall.Thinned calls kept) {other : Host}
    (files : other.files = host.files)
    (shows : other.Shows (kept.flatMap PassCall.shown ++
      [host.clock (host.readings + (calls.flatMap PassCall.shown).length)])) :
    let ran := (run settings names).runOn host
    let again := (run settings (kept.map PassCall.name)).runOn other
    Account ⟨settings.root, layout⟩ store other kept after again ∧
      again.1 = ran.1 ∧ again.2.files = ran.2.files := by
  rcases Host.shows_append_iff.1 shows with ⟨shown, saving⟩
  have madeAgain : SampledHost.calls ⟨settings.root, layout⟩
      settings.remembered (kept.map PassCall.name) store other =
        (kept, after) := by
    have same := SampledHost.calls_of_thinned (by rw [made]; exact thinned)
      shown files
    rwa [made] at same
  have whole := account_of_run found opened made dated
  have again := account_of_run (by rwa [files]) (by rwa [files]) madeAgain
    fun call member => dated call (thinned.subset call member)
  have alike : (host.later (calls.flatMap PassCall.shown).length).Alike
      (other.later (kept.flatMap PassCall.shown).length) 1 := by
    refine ⟨files, saving.trans ?_⟩
    simp [Host.shown, Host.later]
  rcases after.runOn_save alike with ⟨progress, -, onHost, onOther⟩
  refine ⟨again, ?_, ?_⟩
  · rw [again.saved.1, whole.saved.1, onOther]
  · rw [again.saved.2.1, whole.saved.2.1, onOther, onHost]
    rfl

/-- A sample that cannot be written ends a pass before it saves its store. -/
theorem run_of_undated
    (found : (findLayout settings).found host.files = .ok layout)
    (opened : (FileStore.openAt settings.storePath settings.lifetime).found
      host.files = .ok store) {calls : List PassCall} {after : FileStore}
    (made : SampledHost.calls ⟨settings.root, layout⟩ settings.remembered names
      store host = (calls, after))
    (undated : ∃ call ∈ calls, ¬ call.IsDated) :
    let ran := (run settings names).runOn host
    ran.1 = .error (.line .undated) ∧ ran.2.files = host.files := by
  rcases runOn_collect_eq settings names host with ⟨before, prepared, collected⟩
  rw [found, opened] at collected
  simp only at collected
  have shows := SampledHost.shows_calls ⟨settings.root, layout⟩
    settings.remembered names store host
  rcases SampledHost.runOn_sampleAll_undated (prepared.shows shows)
    prepared.files (by rwa [made]) with ⟨progress, ran, unchanged⟩
  rw [run_eq, Task.runOn_bind, collected, ran]
  exact ⟨rfl, unchanged⟩

/-- A pass that finds no layout, or cannot open its store, leaves the host
untouched.  Any other pass makes a call for each of its processes, and when no
sample is from before the start of 1970, its account is theirs.  A pass that
leaves out idle calls then saves the same store, when the clock shows to the
other calls what it showed to them. -/
theorem run_accounts_for_its_calls (settings : Settings) (names : List String)
    (host : Host) :
    let ran := (run settings names).runOn host
    let opened := (FileStore.openAt settings.storePath settings.lifetime).found
      host.files
    (∀ error, (findLayout settings).found host.files = .error error →
      ran.1 = .error (.layout error) ∧ host.Untouched ran.2) ∧
    ∀ layout, (findLayout settings).found host.files = .ok layout →
      (∀ error, opened = .error error →
        ran.1 = .error (.store error) ∧ host.Untouched ran.2) ∧
      ∀ store, opened = .ok store → ∀ calls after,
        SampledHost.calls ⟨settings.root, layout⟩ settings.remembered names
          store host = (calls, after) →
        calls.map PassCall.name = names ∧
        ((∃ call ∈ calls, ¬ call.IsDated) →
          ran.1 = .error (.line .undated) ∧ ran.2.files = host.files) ∧
        ((∀ call ∈ calls, call.IsDated) →
          Account ⟨settings.root, layout⟩ store host calls after ran ∧
          ∀ kept, PassCall.Thinned calls kept →
            ∀ other : Host, other.files = host.files →
              other.Shows (kept.flatMap PassCall.shown ++ [host.clock
                (host.readings + (calls.flatMap PassCall.shown).length)]) →
              let again := (run settings (kept.map PassCall.name)).runOn other
              Account ⟨settings.root, layout⟩ store other kept after again ∧
                again.1 = ran.1 ∧ again.2.files = ran.2.files) := by
  intro ran opened
  rcases runOn_collect_eq settings names host with ⟨before, prepared, collected⟩
  have untouched := prepared.untouched
  refine ⟨?_, ?_⟩
  · intro error failed
    rw [failed] at collected
    simp only [ran, run_eq, Task.runOn_bind, collected]
    exact ⟨rfl, untouched⟩
  · intro layout found
    refine ⟨?_, ?_⟩
    · intro error failed
      simp only [opened] at failed
      rw [found, failed] at collected
      simp only [ran, run_eq, Task.runOn_bind, collected]
      exact ⟨rfl, untouched⟩
    · intro store isOpen calls after made
      refine ⟨?_, run_of_undated found isOpen made, ?_⟩
      · have named := SampledHost.names_calls ⟨settings.root, layout⟩
          settings.remembered names store host
        rwa [made] at named
      · intro dated
        refine ⟨account_of_run found isOpen made dated, ?_⟩
        intro kept thinned other files shows
        exact account_of_thinned found isOpen made dated thinned files shows

/-- A host on which the process 7 runs, and whose clock goes on by a nanosecond
with each reading. -/
def ticking : Host :=
  .fresh PassScene.oneProcess fun reading => ⟨reading⟩

/-- The same host, with a clock that goes on by more after the third reading. -/
def leaping : Host :=
  .fresh PassScene.oneProcess fun reading =>
    ⟨if reading < 3 then reading else reading + 3⟩

/-- The calls for the process 7, a name that is no number, a process that does
not run, and the process 7 again. -/
def mixedCalls : List PassCall × FileStore :=
  SampledHost.calls ⟨PassScene.storeInRoot.root, .unified⟩
    PassScene.storeInRoot.remembered ["7", "x", "9", "7"]
    ⟨⟨"/s"⟩, some ⟨100⟩, KeyMap.empty⟩ ticking

theorem mixed_pass_is_as_without_idle_calls :
    let ran := (run PassScene.storeInRoot ["7", "x", "9", "7"]).runOn ticking
    let again := (run PassScene.storeInRoot ["7", "7"]).runOn leaping
    Account ⟨PassScene.storeInRoot.root, .unified⟩
        ⟨⟨"/s"⟩, some ⟨100⟩, KeyMap.empty⟩ ticking mixedCalls.1
        mixedCalls.2 ran ∧
      again.1 = ran.1 ∧ again.2.files = ran.2.files ∧
      again.2.output = ran.2.output := by
  have absent : ticking.files.openFile PassScene.storeInRoot.storePath =
      .error .notFound := by
    decide +kernel
  have opened : (FileStore.openAt PassScene.storeInRoot.storePath
      PassScene.storeInRoot.lifetime).found ticking.files =
        .ok ⟨⟨"/s"⟩, some ⟨100⟩, KeyMap.empty⟩ := by
    rw [FileStore.found_openAt, FileStore.found_openEntries, absent]
    rfl
  have made : SampledHost.calls ⟨PassScene.storeInRoot.root, .unified⟩
      PassScene.storeInRoot.remembered ["7", "x", "9", "7"]
      ⟨⟨"/s"⟩, some ⟨100⟩, KeyMap.empty⟩ ticking =
        (mixedCalls.1, mixedCalls.2) := by
    rw [Prod.mk.eta, mixedCalls]
  have dated : ∀ call ∈ mixedCalls.1, call.IsDated := by
    decide +kernel
  let kept := mixedCalls.1.filter fun call => ¬ call.IsIdle
  have named : kept.map PassCall.name = ["7", "7"] := by
    decide +kernel
  have shows : leaping.Shows (kept.flatMap PassCall.shown ++ [ticking.clock
      (ticking.readings + (mixedCalls.1.flatMap PassCall.shown).length)]) := by
    unfold Host.Shows
    decide +kernel
  have thinned := PassCall.thinned_filter mixedCalls.1
  rcases (run_accounts_for_its_calls PassScene.storeInRoot ["7", "x", "9", "7"]
    ticking).2 .unified rfl with ⟨-, accounted⟩
  rcases (accounted _ opened mixedCalls.1 mixedCalls.2 made).2.2 dated with
    ⟨account, others⟩
  rcases others kept thinned leaping rfl shows with ⟨again, result, files⟩
  rw [named] at again result files
  refine ⟨account, result, files, ?_⟩
  have start : leaping.output = ticking.output := rfl
  rw [again.output, account.output, thinned.lines, start]

end Pass

end CgroupMeter
