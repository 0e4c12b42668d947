import CgroupMeter.Pass
import CgroupMeter.Proofs.Host.Matching
import CgroupMeter.Proofs.Json.Reread
import CgroupMeter.Proofs.Store.Lawful

/-!
# Sampling into a file and into memory

A store in a file mirrors a store in memory when both hold the same samples,
except for the number of CPUs that a container may use.  That number may have
changed while it was written and read.  Nothing that is derived from a stored
sample depends on it, so sampling into either of them does the same and leaves
them mirroring each other.

The number stays small enough to be read again, however often it is written:
it is a count of CPUs when it is sampled, and reading keeps it below the bound
of `JsonNumber.exists_reread`.
-/

namespace CgroupMeter

open FloatBound

/-! ## Stores that mirror each other -/

namespace StoredSample

/-- A sample as it is without the number of CPUs. -/
def withoutLimit (sample : StoredSample) : StoredSample :=
  { sample with cpu := { sample.cpu with limitCores := Float.ofNat 0 } }

/-- A sample that can be written and read any number of times. -/
structure Lasting (sample : StoredSample) : Prop where
  time : sample.time.InRange
  limit : IsAtMost exactPowers sample.cpu.limitCores

end StoredSample

namespace StoreEntry

/-- An entry that can be written and read any number of times. -/
structure Lasting (entry : StoreEntry) : Prop where
  updated : entry.updatedAt.InRange
  sampled : entry.sample.Lasting

variable {entry : StoreEntry}

theorem Lasting.survives (lasting : entry.Lasting) : entry.Survives := by
  rcases JsonNumber.exists_reread lasting.sampled.limit with ⟨found, read, -⟩
  exact ⟨lasting.updated, lasting.sampled.time, found, read⟩

theorem Lasting.reread (lasting : entry.Lasting) : entry.reread.Lasting := by
  refine ⟨lasting.updated, lasting.sampled.time, ?_⟩
  rcases JsonNumber.exists_reread lasting.sampled.limit with
    ⟨found, read, bounded⟩
  simp only [StoreEntry.reread, RawCpu.reread, read, Option.getD_some]
  exact bounded

end StoreEntry

/-- A store in a file mirrors a store in memory: its samples are the same up to
the number of CPUs, and all its entries last. -/
structure FileStore.Mirrors (path : Path) (lifetime : Option Duration)
    (store : FileStore) (memory : MemoryStore) : Prop where
  path : store.path = path
  lifetime : store.lifetime = lifetime
  samples : ∀ key,
    (store.entries.find? key).map (·.sample.withoutLimit) =
      (memory.find? key).map StoredSample.withoutLimit
  lasting : ∀ key entry, store.entries.find? key = some entry → entry.Lasting

namespace FileStore.Mirrors

variable {path : Path} {lifetime : Option Duration} {store : FileStore}
    {memory : MemoryStore}

theorem empty : Mirrors path lifetime ⟨path, lifetime, KeyMap.empty⟩
    KeyMap.empty := by
  refine ⟨rfl, rfl, fun key => rfl, ?_⟩
  intro key entry found
  cases found

theorem put (mirrors : Mirrors path lifetime store memory) {now : Time}
    (key : String) {sample : StoredSample} (updated : now.InRange)
    (sampled : sample.Lasting) :
    Mirrors path lifetime (SampleStore.put store now key sample)
      (SampleStore.put memory now key sample) := by
  refine ⟨mirrors.path, mirrors.lifetime, ?_, ?_⟩
  · intro other
    change ((store.entries.insert key ⟨now, sample⟩).find? other).map _ =
      ((memory.insert key sample).find? other).map _
    rw [KeyMap.find?_insert, KeyMap.find?_insert]
    split
    · rfl
    · exact mirrors.samples other
  · intro other entry found
    change (store.entries.insert key ⟨now, sample⟩).find? other = _ at found
    rw [KeyMap.find?_insert] at found
    split at found
    · cases found
      exact ⟨updated, sampled⟩
    · exact mirrors.lasting other entry found

theorem erase (mirrors : Mirrors path lifetime store memory) (key : String) :
    Mirrors path lifetime (SampleStore.erase store key)
      (SampleStore.erase memory key) := by
  refine ⟨mirrors.path, mirrors.lifetime, ?_, ?_⟩
  · intro other
    change ((store.entries.erase key).find? other).map _ =
      ((memory.erase key).find? other).map _
    rw [KeyMap.find?_erase, KeyMap.find?_erase]
    split
    · rfl
    · exact mirrors.samples other
  · intro other entry found
    change (store.entries.erase key).find? other = _ at found
    rw [KeyMap.find?_erase] at found
    split at found
    · cases found
    · exact mirrors.lasting other entry found

theorem survive (mirrors : Mirrors path lifetime store memory) :
    store.entries.Survive := by
  intro key entry found
  exact (mirrors.lasting key entry found).survives

/-- What is read back from a document mirrors what was written. -/
theorem reread (mirrors : Mirrors path lifetime store memory) :
    Mirrors path lifetime ⟨path, lifetime, store.entries.reread⟩ memory := by
  refine ⟨rfl, rfl, ?_, ?_⟩
  · intro key
    rw [← mirrors.samples key]
    simp only [StoreEntries.reread, KeyMap.find?_mapValues, Option.map_map]
    rfl
  · intro key entry found
    simp only [StoreEntries.reread, KeyMap.find?_mapValues,
      Option.map_eq_some_iff] at found
    rcases found with ⟨before, present, rfl⟩
    exact (mirrors.lasting key before present).reread

end FileStore.Mirrors

/-! ## What a sample depends on -/

/-- The number of CPUs in a stored sample bears on nothing that is derived. -/
theorem MetricsSample.derive_withoutLimit (inspection : Inspection)
    (raw : RawSample) (previous : Option StoredSample) :
    derive inspection raw (previous.map StoredSample.withoutLimit) =
      derive inspection raw previous := by
  cases previous with
  | none => rfl
  | some stored => rfl

theorem Time.exists_toJson {time : Time} (later : 0 ≤ time.nanos) :
    ∃ written, time.toJson = .ok written :=
  ⟨_, toJson_of_nonneg later⟩

namespace MetricsSample

/-- A sample from the start of 1970 on is written as an object. -/
theorem exists_toJson {sample : MetricsSample}
    (later : 0 ≤ sample.time.nanos) :
    ∃ members, sample.toJson = .ok (.object members) := by
  rcases Time.exists_toJson later with ⟨moment, dated⟩
  rw [toJson, dated]
  exact ⟨_, Json.objectOf_ok [
    ("container_id", .string sample.containerId.text),
    ("timestamp", moment),
    ("cpu", sample.cpu.toJson),
    ("memory", sample.memory.toJson),
    ("blkio", sample.blkio.toJson),
    ("pids", sample.pids.toJson),
    ("network", sample.network.toJson),
    ("restart_count", Json.ofNat sample.restartCount.toNat)]⟩

/-- A sample from the start of 1970 on has a whole line. -/
theorem print_complete {sample : MetricsSample}
    (later : 0 ≤ sample.time.nanos) : sample.print.2 = true := by
  rcases exists_toJson later with ⟨members, written⟩
  rw [print, written]

/-- The line of a sample from before the start of 1970 is cut off. -/
theorem print_incomplete {sample : MetricsSample}
    (earlier : sample.time.nanos < 0) : sample.print.2 = false := by
  have timeCut := Time.toJson_of_neg earlier
  have cut : ∃ cut, sample.toJson = .error cut := by
    rw [toJson, timeCut]
    exact Json.objectOf_error (List.mem_cons_of_mem _ List.mem_cons_self)
  rcases cut with ⟨cut, written⟩
  rw [print, written]

end MetricsSample

namespace RawSample

theorem isAtMost_toFloat {number : Nat} (small : number < UInt64.size) :
    IsAtMost exactPowers (toFloat number) := by
  refine isAtMost_ofNat (Nat.le_refl _) (small.le.trans ?_)
  decide

/-- Without a quota, the number of CPUs is a count of CPUs. -/
theorem isAtMost_limitCores {settings : ResourceSettings}
    (unset : settings.nanoCpus = 0) (cpuset : Option Counter)
    (hostCpus : UInt32) :
    IsAtMost exactPowers (limitCores settings cpuset hostCpus) := by
  have host : IsAtMost exactPowers (toFloat hostCpus.toNat) :=
    isAtMost_toFloat (lt_trans hostCpus.toNat_lt (by decide))
  have unlimited : ¬ 0 < settings.nanoCpus := by
    rw [unset]
    decide
  unfold limitCores
  rw [if_neg unlimited]
  cases cpuset with
  | none => exact host
  | some count =>
      simp only
      split
      · exact isAtMost_toFloat count.toNat_lt
      · exact host

theorem lasting_readParts {layout : GroupLayout} {root : Path}
    {inspection : Inspection} {time : Time} {network : NetworkStat}
    {reader : PartReader} (unset : inspection.settings.nanoCpus = 0)
    (later : time.InRange) (tree : FileTree) :
    ((readParts layout root inspection time network reader).found
      tree).stored.Lasting := by
  cases layout with
  | perController =>
      simp only [readParts, readControllerCpu, Inquiry.found,
        Program.eval_bind, Program.eval_pure]
      exact ⟨later, isAtMost_limitCores unset _ _⟩
  | unified =>
      simp only [readParts, readUnifiedCpu, Inquiry.found,
        Program.eval_bind, Program.eval_pure]
      exact ⟨later, isAtMost_limitCores unset _ _⟩

theorem lasting_fetch {layout : GroupLayout} {root : Path}
    {inspection : Inspection} {time : Time} {raw : RawSample}
    (unset : inspection.settings.nanoCpus = 0) (later : time.InRange)
    (tree : FileTree)
    (fetched : (fetch layout root time inspection).found tree = .ok raw) :
    raw.stored.Lasting := by
  unfold fetch at fetched
  simp only at fetched
  split at fetched
  · cases fetched
  · rw [Inquiry.found, Program.eval_bind] at fetched
    split at fetched
    · cases fetched
    · rw [Program.eval_bind] at fetched
      split at fetched
      · cases fetched
      · rw [Program.eval_bind] at fetched
        cases fetched
        exact lasting_readParts unset later tree

end RawSample

theorem unset_inspect (root : Path) (name : String) (now : Time)
    (tree : FileTree) (inspection : Inspection)
    (inspected : (HostProcess.inspect root name now).found tree =
      .ok inspection) : inspection.settings.nanoCpus = 0 := by
  unfold HostProcess.inspect at inspected
  split at inspected
  · cases inspected
  · cases inspected
  · rw [Inquiry.found, Program.eval_bind] at inspected
    cases inspected
    rfl

/-! ## Sampling programs -/

namespace SampledHost

section

variable {Store : Type} [SampleStore Store] {α β : Type}

theorem run_bind (host : SampledHost) (program : Sampling α)
    (next : α → Sampling β) (store : Store) :
    host.run (program >>= next) store =
      host.run program store >>= fun outcome =>
        host.run (next outcome.1) outcome.2 := by
  simp only [run, Program.runIn_bind]
  rfl

theorem run_ask (host : SampledHost) (asked : SamplingRequest)
    (store : Store) :
    host.run (Sampling.ask asked) store = host.answer asked store := by
  simp only [run, Sampling.ask, Program.runIn_request]
  rfl

end

variable {α β γ δ : Type} {path : Path} {lifetime : Option Duration}
    {host : SampledHost}

/-- Two sampling programs do the same when one runs on a store in a file and
the other on a store in memory that it mirrors, end with related values, and
leave stores that mirror each other. -/
def Mirror (path : Path) (lifetime : Option Duration) (host : SampledHost)
    (related : α → β → Prop) (left : Sampling α) (right : Sampling β) : Prop :=
  ∀ (store : FileStore) (memory : MemoryStore),
    store.Mirrors path lifetime memory →
      Task.Match
        (fun outcome image => related outcome.1 image.1 ∧
          FileStore.Mirrors path lifetime outcome.2 image.2)
        (host.run left store) (host.run right memory)

theorem mirror_pure {related : α → β → Prop} {left : α} {right : β}
    (values : related left right) :
    Mirror path lifetime host related (pure left) (pure right) := by
  intro store memory mirrors
  exact Task.match_pure ⟨values, mirrors⟩

theorem Mirror.bind {related : α → β → Prop} {after : γ → δ → Prop}
    {left : Sampling α} {right : Sampling β} {next : α → Sampling γ}
    {other : β → Sampling δ}
    (first : Mirror path lifetime host related left right)
    (rest : ∀ value image, related value image →
      Mirror path lifetime host after (next value) (other image)) :
    Mirror path lifetime host after (left >>= next) (right >>= other) := by
  intro store memory mirrors
  rw [run_bind, run_bind]
  apply (first store memory mirrors).bind
  rintro ⟨value, after⟩ ⟨image, memoryAfter⟩ ⟨values, mirrorsAfter⟩
  exact rest value image values after memoryAfter mirrorsAfter

/-! ## Requests -/

theorem mirror_inspect (name : String) :
    Mirror path lifetime host
      (fun left right => left = right ∧ ∀ inspection, left = .ok inspection →
        inspection.settings.nanoCpus = 0)
      (Sampling.ask (.inspect name)) (Sampling.ask (.inspect name)) := by
  intro store memory mirrors
  rw [run_ask, run_ask]
  apply Task.match_readClock.bind
  rintro now _ ⟨rfl, -⟩
  refine (Task.match_ofInquiry (fun inspected =>
    ∀ inspection, inspected = .ok inspection →
      inspection.settings.nanoCpus = 0) _ ?_).bind ?_
  · intro tree inspection inspected
    exact unset_inspect host.root name now tree inspection inspected
  rintro inspected _ ⟨rfl, unset⟩
  exact Task.match_pure ⟨⟨rfl, unset⟩, mirrors⟩

theorem mirror_fetch {inspection : Inspection}
    (unset : inspection.settings.nanoCpus = 0) :
    Mirror path lifetime host
      (fun left right => left = right ∧ ∀ raw, left = .ok raw →
        raw.stored.Lasting)
      (Sampling.ask (.fetch inspection)) (Sampling.ask (.fetch inspection)) := by
  intro store memory mirrors
  rw [run_ask, run_ask]
  apply Task.match_readClock.bind
  rintro now _ ⟨rfl, later⟩
  refine (Task.match_ofInquiry (fun fetched =>
    ∀ raw, fetched = .ok raw → raw.stored.Lasting) _ ?_).bind ?_
  · intro tree raw fetched
    exact RawSample.lasting_fetch unset later tree fetched
  rintro fetched _ ⟨rfl, lasting⟩
  exact Task.match_pure ⟨⟨rfl, lasting⟩, mirrors⟩

theorem mirror_readClock :
    Mirror path lifetime host Eq (Sampling.ask .readClock)
      (Sampling.ask .readClock) := by
  intro store memory mirrors
  rw [run_ask, run_ask]
  apply Task.match_readClock.bind
  rintro now _ ⟨rfl, -⟩
  exact Task.match_pure ⟨rfl, mirrors⟩

/-- The samples that are found differ in the number of CPUs only. -/
theorem mirror_find (key : String) :
    Mirror path lifetime host
      (fun left right => ∃ stored image, left = .ok stored ∧ right = .ok image ∧
        stored.map StoredSample.withoutLimit =
          image.map StoredSample.withoutLimit)
      (Sampling.ask (.find key)) (Sampling.ask (.find key)) := by
  intro store memory mirrors
  rw [run_ask, run_ask]
  refine Task.match_pure ⟨⟨_, _, rfl, rfl, ?_⟩, mirrors⟩
  rw [FileStore.find?_eq, Option.map_map]
  exact mirrors.samples key

theorem mirror_put (key : String) {sample : StoredSample}
    (lasting : sample.Lasting) :
    Mirror path lifetime host (fun left right => left = .ok () ∧ right = .ok ())
      (Sampling.ask (.put key sample)) (Sampling.ask (.put key sample)) := by
  intro store memory mirrors
  rw [run_ask, run_ask]
  apply Task.match_readClock.bind
  rintro now _ ⟨rfl, updated⟩
  exact Task.match_pure ⟨⟨rfl, rfl⟩, mirrors.put key updated lasting⟩

theorem mirror_erase (key : String) :
    Mirror path lifetime host Eq (Sampling.ask (.erase key))
      (Sampling.ask (.erase key)) := by
  intro store memory mirrors
  rw [run_ask, run_ask]
  exact Task.match_pure ⟨rfl, mirrors.erase key⟩

theorem mirror_report (level : Level) (text : String) :
    Mirror path lifetime host Eq (Sampling.report level text)
      (Sampling.report level text) := by
  intro store memory mirrors
  rw [Sampling.report, run_ask, run_ask]
  apply (Task.match_refl (Task.report level text)).bind
  rintro made _ rfl
  exact Task.match_pure ⟨rfl, mirrors⟩

/-! ## Sampling a container -/

theorem mirror_forget (id : ContainerId) :
    Mirror path lifetime host Eq (Sampling.forget id)
      (Sampling.forget id) := by
  apply (mirror_erase id.text).bind
  rintro dropped _ rfl
  cases dropped with
  | ok done => exact mirror_pure rfl
  | error error => exact mirror_report _ _

theorem mirror_ended (remembered : Duration) (inspection : Inspection) :
    Mirror path lifetime host Eq (Sampling.ended remembered inspection)
      (Sampling.ended remembered inspection) := by
  unfold Sampling.ended
  simp only
  split
  · exact mirror_pure rfl
  · split
    · exact mirror_pure rfl
    · apply mirror_readClock.bind
      rintro now _ rfl
      split
      · exact mirror_pure rfl
      · apply (mirror_report _ _).bind
        rintro made _ rfl
        apply (mirror_forget inspection.id).bind
        rintro dropped _ rfl
        exact mirror_pure rfl

/-- Exchanging a sample finds the former one up to the number of CPUs. -/
theorem mirror_exchange (key : String) {sample : StoredSample}
    (lasting : sample.Lasting) :
    Mirror path lifetime host
      (fun left right => ∃ stored image, left = .ok stored ∧ right = .ok image ∧
        stored.map StoredSample.withoutLimit =
          image.map StoredSample.withoutLimit)
      (Sampling.exchange key sample) (Sampling.exchange key sample) := by
  apply (mirror_find key).bind
  rintro _ _ ⟨stored, image, rfl, rfl, same⟩
  have absent : stored.isNone = image.isNone := by
    have mapped := congrArg Option.isNone same
    rwa [Option.isNone_map, Option.isNone_map] at mapped
  have stores :
      Mirror path lifetime host
        (fun left right => ∃ stored image, left = .ok stored ∧
          right = .ok image ∧ stored.map StoredSample.withoutLimit =
            image.map StoredSample.withoutLimit)
        (do
          let put ← Sampling.ask (.put key sample)
          return put.map fun () => stored)
        (do
          let put ← Sampling.ask (.put key sample)
          return put.map fun () => image) := by
    apply (mirror_put key lasting).bind
    rintro _ _ ⟨rfl, rfl⟩
    exact mirror_pure ⟨stored, image, rfl, rfl, same⟩
  simp only [absent]
  split
  · apply (mirror_report _ _).bind
    rintro made _ rfl
    exact stores
  · exact stores

theorem mirror_sampleRunning {inspection : Inspection}
    (unset : inspection.settings.nanoCpus = 0) :
    Mirror path lifetime host
      (fun left right => left = right ∧ ∀ sample, left = .ok sample →
        sample.time.InRange)
      (Sampling.sampleRunning inspection)
      (Sampling.sampleRunning inspection) := by
  apply (mirror_fetch unset).bind
  rintro fetched _ ⟨rfl, lasts⟩
  cases fetched with
  | error error =>
      refine mirror_pure ⟨rfl, ?_⟩
      intro sample sampled
      cases sampled
  | ok raw =>
      have lasting := lasts raw rfl
      apply (mirror_exchange inspection.id.text lasting).bind
      rintro _ _ ⟨stored, image, rfl, rfl, same⟩
      refine mirror_pure ⟨?_, ?_⟩
      -- The former samples may differ, but not in what the metrics see of them.
      · rw [← MetricsSample.derive_withoutLimit inspection raw stored, same,
          MetricsSample.derive_withoutLimit]
      · intro sample sampled
        cases sampled
        exact lasting.time

/-- Sampling a process yields the same with both stores. -/
theorem mirror_sample (remembered : Duration) (name : String) :
    Mirror path lifetime host
      (fun left right => left = right ∧ ∀ sample, left = .ok sample →
        sample.time.InRange)
      (Sampling.sample remembered name) (Sampling.sample remembered name) := by
  apply (mirror_inspect name).bind
  rintro inspected _ ⟨rfl, unset⟩
  cases inspected with
  | error error =>
      refine mirror_pure ⟨rfl, ?_⟩
      intro sample sampled
      cases sampled
  | ok inspection =>
      simp only
      split
      · apply (mirror_ended remembered inspection).bind
        rintro reason _ rfl
        refine mirror_pure ⟨rfl, ?_⟩
        intro sample sampled
        cases sampled
      · exact mirror_sampleRunning (unset inspection rfl)

end SampledHost

/-! ## Sampling several processes -/

namespace Pass

/-- Every result is concluded without an error. -/
theorem match_conclude (name : String)
    {result : Except SamplingError MetricsSample}
    (dated : ∀ sample, result = .ok sample → sample.time.InRange) :
    Task.Match (fun left right => left = right ∧ left = .ok ())
      (conclude name result) (conclude name result) := by
  refine Task.match_self
    (fun concluded : Except PassError Unit => concluded = .ok ()) _ ?_
  intro host clock
  cases result with
  | error error =>
      unfold conclude
      simp only
      split
      · rw [Task.runOn_bind, Task.runOn_pure]
      · rw [Task.runOn_bind, Task.runOn_pure]
  | ok sample =>
      have complete := MetricsSample.print_complete (dated sample rfl).1
      simp only [conclude, emitLine, complete, if_true, Task.runOn_bind,
        Task.runOn_emit, Task.runOn_pure]

/-- Sampling several processes does the same with both stores. -/
theorem match_sampleAll {path : Path} {lifetime : Option Duration}
    (host : SampledHost) (remembered : Duration) (names : List String)
    {store : FileStore} {memory : MemoryStore}
    (mirrors : store.Mirrors path lifetime memory) :
    Task.Match
      (fun left right => ∃ after memoryAfter, left = .ok after ∧
        right = .ok memoryAfter ∧
        FileStore.Mirrors path lifetime after memoryAfter)
      (sampleAll host remembered names store)
      (sampleAll host remembered names memory) := by
  induction names generalizing store memory with
  | nil => exact Task.match_pure ⟨store, memory, rfl, rfl, mirrors⟩
  | cons name rest ih =>
      rw [sampleAll, sampleAll]
      have sampled := @SampledHost.mirror_sample path lifetime host remembered name
      apply (sampled store memory mirrors).bind
      rintro ⟨result, after⟩ ⟨image, memoryAfter⟩
        ⟨⟨sameResult, dated⟩, mirrorsAfter⟩
      simp only at sameResult dated mirrorsAfter
      subst sameResult
      apply (match_conclude name dated).bind
      rintro concluded _ ⟨rfl, rfl⟩
      exact ih mirrorsAfter

end Pass

end CgroupMeter
