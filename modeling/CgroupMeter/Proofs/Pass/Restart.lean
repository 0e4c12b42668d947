import CgroupMeter.Proofs.Host.Quiet
import CgroupMeter.Proofs.Pass.Calls
import CgroupMeter.Proofs.Pass.Mirror
import CgroupMeter.Proofs.Store.Saving

/-!
# Passes that start anew

A pass opens the store that the pass before it saved.  The lines of passes that
each do so are the lines of one sampler that goes on with a store in memory,
one for each of its calls that takes a sample: what a document does not bring
back exactly bears on no line, and everything that is saved is read again.

`PassScene.mirrors_pass` is the step from one pass to the next, with
`FileStore.Mirrors` as the invariant.
-/

namespace CgroupMeter

/-! ## The parts of a pass -/

namespace Pass

/-- All of a pass before it saves.  Yields the store that is to be saved. -/
def collect (settings : Settings) (names : List String) :
    Task (Except PassError FileStore) := do
  Task.report .debug s!"Host root: {settings.root.text}"
  match ← Task.ofInquiry (findLayout settings) with
  | .error error => return .error (.layout error)
  | .ok layout => do
      Task.report .debug s!"Cgroup version: {layout.versionName}"
      let opened ← Task.ofInquiry
        (FileStore.openAt settings.storePath settings.lifetime)
      match opened with
      | .error error => return .error (.store error)
      | .ok store => do
          Task.ofInquiry (RawSample.reportLayout layout settings.root)
          sampleAll ⟨settings.root, layout⟩ settings.remembered names store

/-- Save what was collected. -/
def saveCollected :
    Except PassError FileStore → Task (Except PassError Unit)
  | .error error => return .error error
  | .ok store => do
      let (_, saved) ← store.save
      return saved.mapError .store

theorem run_eq (settings : Settings) (names : List String) :
    run settings names = collect settings names >>= saveCollected := by
  unfold run collect
  simp only [bind_assoc]
  congr 1
  funext made
  congr 1
  funext found
  cases found with
  | error error => rfl
  | ok layout =>
      simp only [bind_assoc]
      congr 1
      funext noted
      congr 1
      funext opened
      cases opened with
      | error error => rfl
      | ok store =>
          simp only [sampleInto, bind_assoc]
          rfl

theorem quiet_findLayout (settings : Settings) :
    (findLayout settings).Only Query.IsQuiet := by
  unfold findLayout
  split
  · exact Program.within_pure _
  · exact Inquiry.quiet_of_detail (GroupLayout.detail_detect _)

/-- All that a pass does before its calls is quiet. -/
theorem runOn_collect_eq (settings : Settings) (names : List String)
    (host : Host) :
    ∃ progress, progress.Amounts host.files 0 [] [] ∧
      (collect settings names).runOn host =
        match (findLayout settings).found host.files with
        | .error error => (.error (.layout error), host.after progress)
        | .ok layout =>
            match (FileStore.openAt settings.storePath
              settings.lifetime).found host.files with
            | .error error => (.error (.store error), host.after progress)
            | .ok store =>
                (sampleAll ⟨settings.root, layout⟩ settings.remembered names
                  store).runOn (host.after progress) := by
  have nothing := Progress.amounts_none host.files
  have start : (collect settings names).runOn host =
      (collect settings names).runOn (host.after (.none host.files)) := by
    rw [Progress.after_none]
  rcases Task.runOn_ofInquiry_bind nothing (@Inquiry.quiet_report .debug
      (by decide) s!"Host root: {settings.root.text}") with
    ⟨rooted, amounts, reported⟩
  rcases Task.runOn_ofInquiry_bind amounts (quiet_findLayout settings) with
    ⟨located, amounts, looked⟩
  rw [start, collect, Task.report, reported, looked]
  cases (findLayout settings).found host.files with
  | error error => exact ⟨located, amounts, rfl⟩
  | ok layout =>
      rcases Task.runOn_ofInquiry_bind amounts (@Inquiry.quiet_report .debug
          (by decide) s!"Cgroup version: {layout.versionName}") with
        ⟨versioned, amounts, reported⟩
      rcases Task.runOn_ofInquiry_bind amounts (FileStore.quiet_openAt
          settings.storePath settings.lifetime) with ⟨read, amounts, opened⟩
      simp only
      rw [Task.report, reported, opened]
      cases (FileStore.openAt settings.storePath settings.lifetime).found
          host.files with
      | error error => exact ⟨read, amounts, rfl⟩
      | ok store =>
          rcases Task.runOn_ofInquiry_bind amounts
              (RawSample.quiet_reportLayout settings.root layout) with
            ⟨ready, amounts, reported⟩
          exact ⟨ready, amounts, reported _⟩

/-- With a layout that is set, a pass samples into the store that it opens. -/
theorem runOn_collect {settings : Settings} {layout : GroupLayout}
    {store : FileStore} (names : List String) (host : Host)
    (fixed : settings.layout = some layout)
    (opened : (FileStore.openAt settings.storePath settings.lifetime).found
      host.files = .ok store) :
    ∃ reports, (collect settings names).runOn host =
      (sampleAll ⟨settings.root, layout⟩ settings.remembered names
        store).runOn { host with reports } := by
  have set : (findLayout settings).found host.files = .ok layout := by
    rw [findLayout, fixed]
    rfl
  rcases runOn_collect_eq settings names host with ⟨progress, amounts, collected⟩
  rw [set, opened] at collected
  refine ⟨host.reports ++ progress.reports, collected.trans ?_⟩
  simp [Host.after, amounts.files, amounts.readings, amounts.lines]

end Pass

/-! ## Saving -/

namespace FileStore

/-- A store without entries to be dropped is saved as it is. -/
theorem evicted_eq_self {store : FileStore} {now : Time}
    (fresh : store.staleKeys now = []) : store.evicted now = store := by
  have all : ∀ key entry, store.entries.find? key = some entry →
      isFresh store.lifetime now entry = true := by
    intro key entry found
    have member := KeyMap.mem_entries_iff.2 found
    rw [staleKeys, List.map_eq_nil_iff, List.filter_eq_nil_iff] at fresh
    have kept := fresh (key, entry) member
    simpa using kept
  have same : (store.entries.filter fun _ entry =>
      isFresh store.lifetime now entry) = store.entries := by
    refine KeyMap.ext_find? ?_
    intro key
    rw [KeyMap.find?_filter]
    cases found : store.entries.find? key with
    | none => rfl
    | some entry => rw [Option.filter_some, all key entry found, if_pos rfl]
  rw [evicted, same]

/-- A store whose entries all survive is saved whenever its document can be
written, and read back then. -/
theorem save_of_survive {store : FileStore} {host : Host}
    (survive : store.entries.Survive)
    (fresh : store.staleKeys (host.clock host.readings) = [])
    (written : ∀ path cause,
      (store.save.runOn host).1.2 ≠ .error (.write path cause)) :
    (store.save.runOn host).1.2 = .ok () ∧
      (store.save.runOn host).2.output = host.output ∧
      ∃ bytes, (store.save.runOn host).2.files.openFile store.path =
          .ok (.file bytes) ∧
        StoreEntries.parse? bytes = some store.entries.reread := by
  rcases store.save_outcome host with ⟨-, files, reports, left, outcome⟩
  rw [evicted_eq_self fresh] at outcome
  have document := StoreEntries.parse?_print survive
  have unchanged : (store.save.runOn host).2.output = host.output := by
    rw [left]
  have placed : (store.save.runOn host).2.files = files := by
    rw [left]
  rw [placed]
  have saved := outcome.eq_ok document.1 written
  rw [saved] at outcome
  exact ⟨saved, unchanged, store.entries.print.1, outcome.openFile.2,
    document.2⟩

end FileStore

/-! ## Passes one after another -/

/-- What a pass meets: the processes that are named, the files of the host, and
what its clock shows. -/
structure PassScene where
  names : List String
  files : FileTree
  clock : Nat → Time

namespace PassScene

/-- The host of a scene, before the pass. -/
def host (scene : PassScene) : Host :=
  .fresh scene.files scene.clock

/-- Run a whole pass. -/
def pass (scene : PassScene) (settings : Settings) :
    Except PassError Unit × Host :=
  (Pass.run settings scene.names).runOn scene.host

/-- The names of the entries that a pass drops when it saves its store. -/
def evicted (scene : PassScene) (settings : Settings) : List String :=
  match (Pass.collect settings scene.names).runOn scene.host with
  | (.ok store, host) => store.staleKeys (host.clock host.readings)
  | (.error _, _) => []

/-- A scene follows another when the file of the store is as the pass left it.
The rest of the host may be any other. -/
def Follows (settings : Settings) (scene next : PassScene) : Prop :=
  next.files.openFile settings.storePath =
    (scene.pass settings).2.files.openFile settings.storePath

/-- The output in each scene of one sampler that goes on with its store in
memory. -/
def sampleOn (host : SampledHost) (remembered : Duration) :
    MemoryStore → List PassScene → Except PassError (List (List UInt8))
  | _, [] => .ok []
  | memory, scene :: rest =>
      match (Pass.sampleAll host remembered scene.names memory).runOn
          scene.host with
      | (.error error, _) => .error error
      | (.ok after, left) =>
          (sampleOn host remembered after rest).map (left.output :: ·)

/-- The calls in each scene of one sampler that goes on with its store in
memory. -/
def callsOn (host : SampledHost) (remembered : Duration) :
    MemoryStore → List PassScene → List (List PassCall)
  | _, [] => []
  | memory, scene :: rest =>
      let made := host.calls remembered scene.names memory scene.host
      made.1 :: callsOn host remembered made.2 rest

variable {settings : Settings} {layout : GroupLayout} {scene : PassScene}
    {store : FileStore} {memory : MemoryStore}

/-- Sampling that is not cut off has made the calls of its scene, and given
their lines. -/
theorem calls_of_sampleAll {sampled : SampledHost} {remembered : Duration}
    {after : MemoryStore} {left : Host}
    (done : (Pass.sampleAll sampled remembered scene.names memory).runOn
      scene.host = (.ok after, left)) :
    let made := sampled.calls remembered scene.names memory scene.host
    made.2 = after ∧ made.1.flatMap PassCall.line = left.output := by
  have shows := sampled.shows_calls remembered scene.names memory scene.host
  by_cases dated : ∀ made ∈
      (sampled.calls remembered scene.names memory scene.host).1, made.IsDated
  · rcases SampledHost.runOn_sampleAll shows rfl dated with
      ⟨progress, ran, amounts⟩
    cases ran.symm.trans done
    refine ⟨rfl, ?_⟩
    rw [← amounts.lines]
    simp [Host.after, host, Host.fresh]
  · have undated : ∃ made ∈
        (sampled.calls remembered scene.names memory scene.host).1,
          ¬ made.IsDated := by
      simpa using dated
    rcases SampledHost.runOn_sampleAll_undated shows rfl undated with
      ⟨progress, ran, -⟩
    cases ran.symm.trans done

/-- A sampler that is not cut off gives the lines of its calls, scene by
scene. -/
theorem lines_of_sampleOn {sampled : SampledHost} {remembered : Duration}
    {scenes : List PassScene} {outputs : List (List UInt8)}
    (done : sampleOn sampled remembered memory scenes = .ok outputs) :
    (callsOn sampled remembered memory scenes).map
      (List.flatMap PassCall.line) = outputs := by
  induction scenes generalizing memory outputs with
  | nil =>
      cases done
      rfl
  | cons scene rest ih =>
      rw [sampleOn] at done
      split at done
      · cases done
      · rename_i after left ran
        rcases calls_of_sampleAll ran with ⟨stored, lines⟩
        cases others : sampleOn sampled remembered after rest with
        | error error => simp [others, Except.map] at done
        | ok behind =>
            rw [others] at done
            cases done
            rw [callsOn, List.map_cons, stored, lines, ih others]

/-- A pass on a store that mirrors one in memory gives the output of sampling
into that one, and saves a document whose entries mirror what is in memory
then. -/
theorem mirrors_pass (fixed : settings.layout = some layout)
    (opened : (FileStore.openAt settings.storePath settings.lifetime).found
      scene.files = .ok store)
    (mirrors : store.Mirrors settings.storePath settings.lifetime memory)
    (clock : ∀ reading, (scene.clock reading).InRange)
    (kept : scene.evicted settings = [])
    (written : ∀ path cause,
      (scene.pass settings).1 ≠ .error (.store (.write path cause))) :
    (scene.pass settings).1 = .ok () ∧
      ∃ after left bytes entries,
        (Pass.sampleAll ⟨settings.root, layout⟩ settings.remembered scene.names
          memory).runOn scene.host = (.ok after, left) ∧
        left.output = (scene.pass settings).2.output ∧
        (scene.pass settings).2.files.openFile settings.storePath =
          .ok (.file bytes) ∧
        StoreEntries.parse? bytes = some entries ∧
        FileStore.Mirrors settings.storePath settings.lifetime
          ⟨settings.storePath, settings.lifetime, entries⟩ after := by
  rcases Pass.runOn_collect scene.names scene.host fixed opened with
    ⟨reports, collected⟩
  let sampled : SampledHost := ⟨settings.root, layout⟩
  rcases Pass.match_sampleAll sampled settings.remembered scene.names mirrors
      { scene.host with reports } clock with
    ⟨hosts, saved, after, stored, remembered, mirrorsAfter⟩
  -- The pass has made reports before it samples; the sampler in memory starts
  -- without them and does the same.
  rcases Task.runOn_with_reports
      (Pass.sampleAll sampled settings.remembered scene.names memory)
      scene.host reports with ⟨noted, same⟩
  rw [same] at hosts remembered
  generalize (Pass.sampleAll sampled settings.remembered scene.names
    memory).runOn scene.host = image at hosts remembered ⊢
  rcases image with ⟨result, left⟩
  simp only at hosts remembered
  subst remembered
  have before : (Pass.collect settings scene.names).runOn scene.host =
      (.ok saved, { left with reports := noted }) := by
    rw [collected]
    exact Prod.ext stored hosts
  have whole : scene.pass settings =
      ((saved.save.runOn { left with reports := noted }).1.2.mapError .store,
        (saved.save.runOn { left with reports := noted }).2) := by
    rw [pass, Pass.run_eq, Task.runOn_bind, before]
    simp only [Pass.saveCollected, Task.runOn_bind, Task.runOn_pure]
  rw [evicted, before] at kept
  rw [whole] at written ⊢
  have unrefused : ∀ path cause,
      (saved.save.runOn { left with reports := noted }).1.2 ≠
        .error (.write path cause) := by
    intro path cause refused
    apply written path cause
    rw [refused]
    rfl
  rcases FileStore.save_of_survive mirrorsAfter.survive kept unrefused with
    ⟨ok, output, bytes, placed, read⟩
  rw [mirrorsAfter.path] at placed
  refine ⟨?_, after, left, bytes, _, rfl, output.symm, placed, read,
    mirrorsAfter.reread⟩
  rw [ok]
  rfl

theorem Follows.opened {next : PassScene} {bytes : List UInt8}
    {entries : StoreEntries} (follows : Follows settings scene next)
    (placed : (scene.pass settings).2.files.openFile settings.storePath =
      .ok (.file bytes))
    (read : StoreEntries.parse? bytes = some entries) :
    (FileStore.openAt settings.storePath settings.lifetime).found next.files =
      .ok ⟨settings.storePath, settings.lifetime, entries⟩ := by
  rw [FileStore.found_openAt, FileStore.found_openEntries, follows, placed]
  simp only [FileStore.readEntries, read]
  rfl

/-- Passes on a store that mirrors one in memory at first give the outputs of
sampling on in memory. -/
theorem mirrors_passes {scenes : List PassScene}
    (fixed : settings.layout = some layout)
    (start : ∀ first ∈ scenes.head?, ∃ store,
      (FileStore.openAt settings.storePath settings.lifetime).found
          first.files = .ok store ∧
        store.Mirrors settings.storePath settings.lifetime memory)
    (following : scenes.IsChain (Follows settings))
    (clock : ∀ scene ∈ scenes, ∀ reading, (scene.clock reading).InRange)
    (kept : ∀ scene ∈ scenes, scene.evicted settings = [])
    (written : ∀ scene ∈ scenes, ∀ path cause,
      (scene.pass settings).1 ≠ .error (.store (.write path cause))) :
    sampleOn ⟨settings.root, layout⟩ settings.remembered memory scenes =
        .ok (scenes.map fun scene => (scene.pass settings).2.output) ∧
      ∀ scene ∈ scenes, (scene.pass settings).1 = .ok () ∧
        ∃ opened entries,
          (scene.pass settings).2.files.openFile settings.storePath =
            .ok opened ∧
          FileStore.readEntries opened = .ok entries := by
  -- The store in memory changes from scene to scene, and with it what the
  -- first store of the rest has to mirror.
  induction scenes generalizing memory with
  | nil =>
      refine ⟨rfl, ?_⟩
      intro scene member
      cases member
  | cons scene rest ih =>
      rcases start scene rfl with ⟨store, opened, mirrors⟩
      rcases mirrors_pass fixed opened mirrors
          (clock scene List.mem_cons_self) (kept scene List.mem_cons_self)
          (written scene List.mem_cons_self) with
        ⟨ok, after, left, bytes, entries, sampled, output, placed, read,
          mirrorsAfter⟩
      have next : ∀ second ∈ rest.head?, ∃ store,
          (FileStore.openAt settings.storePath settings.lifetime).found
              second.files = .ok store ∧
            store.Mirrors settings.storePath settings.lifetime after := by
        intro second first
        cases rest with
        | nil => cases first
        | cons head others =>
            cases first
            have follows := (List.isChain_cons_cons.1 following).1
            exact ⟨_, follows.opened placed read, mirrorsAfter⟩
      rcases ih next following.tail
          (fun other member => clock other (List.mem_cons_of_mem _ member))
          (fun other member => kept other (List.mem_cons_of_mem _ member))
          (fun other member => written other (List.mem_cons_of_mem _ member))
        with ⟨outputs, results⟩
      constructor
      · rw [sampleOn, sampled]
        simp only [outputs, Except.map, List.map_cons, output]
      · intro other member
        rcases List.mem_cons.1 member with rfl | later
        · refine ⟨ok, .file bytes, entries, placed, ?_⟩
          rw [FileStore.readEntries, read]
        · exact results other later

/-- Passes that each open and save the same store, which is absent at first,
give the output, pass by pass, of one sampler that goes on with a store in
memory in the same scenes: the lines of the calls that it makes.  This is so
for all processes, files and clocks, when every store can be written and none
drops an entry.  Every pass ends without an error, and the document that it
leaves is read. -/
theorem separate_passes_write_what_one_sampler_writes (settings : Settings)
    (layout : GroupLayout) (scenes : List PassScene)
    (fixed : settings.layout = some layout)
    (absent : ∀ first ∈ scenes.head?,
      first.files.openFile settings.storePath = .error .notFound)
    (following : scenes.IsChain (Follows settings))
    (clock : ∀ scene ∈ scenes, ∀ reading, (scene.clock reading).InRange)
    (kept : ∀ scene ∈ scenes, scene.evicted settings = [])
    (written : ∀ scene ∈ scenes, ∀ path cause,
      (scene.pass settings).1 ≠ .error (.store (.write path cause))) :
    let outputs := scenes.map fun scene => (scene.pass settings).2.output
    sampleOn ⟨settings.root, layout⟩ settings.remembered KeyMap.empty scenes =
        .ok outputs ∧
      (callsOn ⟨settings.root, layout⟩ settings.remembered KeyMap.empty
        scenes).map (List.flatMap PassCall.line) = outputs ∧
      ∀ scene ∈ scenes, (scene.pass settings).1 = .ok () ∧
        ∃ opened entries,
          (scene.pass settings).2.files.openFile settings.storePath =
            .ok opened ∧
          FileStore.readEntries opened = .ok entries := by
  have start : ∀ first ∈ scenes.head?, ∃ store,
      (FileStore.openAt settings.storePath settings.lifetime).found
          first.files = .ok store ∧
        store.Mirrors settings.storePath settings.lifetime KeyMap.empty := by
    intro first member
    refine ⟨_, ?_, FileStore.Mirrors.empty⟩
    rw [FileStore.found_openAt, FileStore.found_openEntries,
      absent first member]
    rfl
  rcases mirrors_passes fixed start following clock kept written with
    ⟨sampled, passes⟩
  exact ⟨sampled, lines_of_sampleOn sampled, passes⟩

/-- Settings with the store in a file of the root directory. -/
def storeInRoot : Settings :=
  { root := ⟨"/"⟩, storePath := ⟨"/s"⟩, remembered := ⟨5⟩,
    lifetime := some ⟨100⟩, layout := some .unified }

/-- A host with one process in the outermost group. -/
def oneProcess : FileTree :=
  [(["proc"], Entry.directory), (["7", "proc"], .directory),
    (["net", "7", "proc"], .directory), (["c"], .directory),
    (["mounts", "proc"], .file (Text.toBytes "cgroup2 /c cgroup2 rw 0 0")),
    (["cgroup", "7", "proc"], .file (Text.toBytes "0::/")),
    (["dev", "net", "7", "proc"], .file []),
    (["cpu.stat", "c"], .file (Text.toBytes "usage_usec 10"))].foldl
    (fun files placed => files.setEntry placed.1 (some placed.2))
    (FileTree.empty [])

/-- A first pass over the process. -/
def firstPass : PassScene :=
  ⟨["7"], oneProcess, fun _ => ⟨0⟩⟩

/-- A second pass, after the process has used more time. -/
def secondPass : PassScene :=
  ⟨["7"],
    (firstPass.pass storeInRoot).2.files.setEntry ["cpu.stat", "c"]
      (some (.file (Text.toBytes "usage_usec 20"))),
    fun _ => ⟨50⟩⟩

theorem saved_firstPass :
    (firstPass.pass storeInRoot).1 = .ok () ∧
      firstPass.evicted storeInRoot = [] := by
  decide +kernel

theorem saved_secondPass :
    (secondPass.pass storeInRoot).1 = .ok () ∧
      secondPass.evicted storeInRoot = [] := by
  decide +kernel

theorem follows_firstPass : Follows storeInRoot firstPass secondPass := by
  unfold Follows
  decide +kernel

theorem two_passes_write_what_one_sampler_writes :
    let outputs := [(firstPass.pass storeInRoot).2.output,
      (secondPass.pass storeInRoot).2.output]
    sampleOn ⟨⟨"/"⟩, .unified⟩ ⟨5⟩ KeyMap.empty [firstPass, secondPass] =
        .ok outputs ∧
      (callsOn ⟨⟨"/"⟩, .unified⟩ ⟨5⟩ KeyMap.empty [firstPass, secondPass]).map
        (List.flatMap PassCall.line) = outputs := by
  have absent : firstPass.files.openFile storeInRoot.storePath =
      .error .notFound := by
    decide +kernel
  have start : (⟨0⟩ : Time).InRange := ⟨by decide, by decide⟩
  have later : (⟨50⟩ : Time).InRange := ⟨by decide, by decide⟩
  have both : ∀ {holds : PassScene → Prop}, holds firstPass →
      holds secondPass → ∀ scene ∈ [firstPass, secondPass], holds scene := by
    intro holds first second scene member
    simp only [List.mem_cons, List.not_mem_nil, or_false] at member
    rcases member with rfl | rfl
    · exact first
    · exact second
  have unrefused : ∀ scene : PassScene, (scene.pass storeInRoot).1 = .ok () →
      ∀ path cause, (scene.pass storeInRoot).1 ≠
        .error (.store (.write path cause)) := by
    intro scene ok path cause refused
    rw [ok] at refused
    cases refused
  have first : ∀ first ∈ [firstPass, secondPass].head?,
      first.files.openFile storeInRoot.storePath = .error .notFound := by
    intro first member
    cases member
    exact absent
  rcases separate_passes_write_what_one_sampler_writes storeInRoot .unified
    [firstPass, secondPass] rfl first
    (.cons_cons follows_firstPass (.singleton _))
    (both (fun _ => start) (fun _ => later))
    (both saved_firstPass.2 saved_secondPass.2)
    (both (unrefused _ saved_firstPass.1) (unrefused _ saved_secondPass.1))
    with ⟨sampled, lines, -⟩
  exact ⟨sampled, lines⟩

end PassScene

end CgroupMeter
