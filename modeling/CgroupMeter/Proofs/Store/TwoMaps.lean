import CgroupMeter.Proofs.Store.Document
import CgroupMeter.Proofs.Store.Lawful
import CgroupMeter.Proofs.Store.Settled

/-!
# A store in a file is two maps

Seen from outside, a store that is kept in a file is a map in memory and a map
on disk.  Putting and erasing change the first, saving drops what has outlived
its time from the first and then, if it succeeds, copies the first to the
second, and opening the store again copies the second to the first.

`Session` is the store on a host, `TwoMaps` the pair of maps, and `Simulates`
relates them.  Every operation of a session is a step of the two maps
(`simulates_step`), and so every run is a run of them.
-/

namespace CgroupMeter

/-! ## Operations on a store -/

/-- An operation on a store. -/
inductive StoreOperation where
  | find (key : String)
  | put (key : String) (sample : StoredSample)
  | erase (key : String)
  | save
  | reopen

/-- The answer to an operation on a store. -/
inductive StoreAnswer where
  | found (sample : Option StoredSample)
  | done (result : Except StoreError Unit)

namespace FileStore

/-- Perform an operation on a store.  A store that cannot be opened again stays
as it is. -/
def perform (store : FileStore) :
    StoreOperation → Task (StoreAnswer × FileStore)
  | .find key => return (.found (SampleStore.find? store key), store)
  | .put key sample => do
      let now ← Task.readClock
      return (.done (.ok ()), SampleStore.put store now key sample)
  | .erase key => return (.done (.ok ()), SampleStore.erase store key)
  | .save => do
      let (kept, result) ← store.save
      return (.done result, kept)
  | .reopen => do
      match ← Task.ofInquiry (openAt store.path store.lifetime) with
      | .ok opened => return (.done (.ok ()), opened)
      | .error error => return (.done (.error error), store)

end FileStore

/-- An operation, what the clock showed before it, and the answer to it. -/
structure StoreEvent where
  operation : StoreOperation
  now : Time
  answer : StoreAnswer

/-- A store in use on a host. -/
structure StoreSession where
  store : FileStore
  host : Host

namespace StoreSession

/-- Perform one operation. -/
def perform (session : StoreSession) (operation : StoreOperation) :
    StoreEvent × StoreSession :=
  let ((answer, store), host) :=
    (session.store.perform operation).runOn session.host
  (⟨operation, session.host.clock session.host.readings, answer⟩,
    ⟨store, host⟩)

/-- Perform operations in turn. -/
def performAll (session : StoreSession) :
    List StoreOperation → List StoreEvent × StoreSession
  | [] => ([], session)
  | operation :: rest =>
      let (event, after) := session.perform operation
      let (events, last) := after.performAll rest
      (event :: events, last)

end StoreSession

/-! ## Two maps -/

/-- The entries of a store as a map without any form. -/
abbrev EntryMap := String → Option StoreEntry

/-- The map in memory and the map on disk. -/
structure TwoMaps where
  memory : EntryMap
  disk : EntryMap

namespace EntryMap

/-- No entries. -/
def empty : EntryMap := fun _ => none

/-- The map with an entry under a key. -/
def put (map : EntryMap) (key : String) (entry : StoreEntry) : EntryMap :=
  fun other => if key = other then some entry else map other

/-- The map without a key. -/
def erase (map : EntryMap) (key : String) : EntryMap :=
  fun other => if key = other then none else map other

/-- An entry has outlived a lifetime.  One that was put into the store later
than now has not, and without a lifetime none has. -/
def Outlived (lifetime : Option Duration) (now : Time) (entry : StoreEntry) :
    Prop :=
  ∃ duration ∈ lifetime,
    (duration.nanos : Int) < now.nanos - entry.updatedAt.nanos

instance (lifetime : Option Duration) (now : Time) (entry : StoreEntry) :
    Decidable (Outlived lifetime now entry) :=
  match lifetime with
  | none => isFalse (by simp [Outlived])
  | some duration =>
      decidable_of_iff
        ((duration.nanos : Int) < now.nanos - entry.updatedAt.nanos)
        (by simp [Outlived])

/-- The map without the entries that have outlived a lifetime. -/
def keep (map : EntryMap) (lifetime : Option Duration) (now : Time) :
    EntryMap :=
  fun key => (map key).filter fun entry => !decide (Outlived lifetime now entry)

end EntryMap

namespace TwoMaps

/-- Both maps are empty. -/
def empty : TwoMaps := ⟨EntryMap.empty, EntryMap.empty⟩

/-- What an event does to the two maps. -/
inductive Step (lifetime : Option Duration) :
    TwoMaps → StoreEvent → TwoMaps → Prop
  | find (maps : TwoMaps) (now : Time) (key : String) :
      Step lifetime maps
        ⟨.find key, now, .found ((maps.memory key).map StoreEntry.sample)⟩ maps
  | put (maps : TwoMaps) (now : Time) (key : String) (sample : StoredSample) :
      Step lifetime maps ⟨.put key sample, now, .done (.ok ())⟩
        ⟨maps.memory.put key ⟨now, sample⟩, maps.disk⟩
  | erase (maps : TwoMaps) (now : Time) (key : String) :
      Step lifetime maps ⟨.erase key, now, .done (.ok ())⟩
        ⟨maps.memory.erase key, maps.disk⟩
  | saved (maps : TwoMaps) (now : Time)
      (dated : ∀ key entry, maps.memory.keep lifetime now key = some entry →
        0 ≤ entry.sample.time.nanos) :
      Step lifetime maps ⟨.save, now, .done (.ok ())⟩
        ⟨maps.memory.keep lifetime now, maps.memory.keep lifetime now⟩
  | unsaved (maps : TwoMaps) (now : Time) (error : StoreError) :
      Step lifetime maps ⟨.save, now, .done (.error error)⟩
        ⟨maps.memory.keep lifetime now, maps.disk⟩
  | reopened (maps : TwoMaps) (now : Time) :
      Step lifetime maps ⟨.reopen, now, .done (.ok ())⟩ ⟨maps.disk, maps.disk⟩

/-- What events do to the two maps in turn. -/
inductive Run (lifetime : Option Duration) :
    TwoMaps → List StoreEvent → TwoMaps → Prop
  | nil (maps : TwoMaps) : Run lifetime maps [] maps
  | cons {maps next last : TwoMaps} {event : StoreEvent}
      {rest : List StoreEvent} (step : Step lifetime maps event next)
      (run : Run lifetime next rest last) : Run lifetime maps (event :: rest) last

end TwoMaps

/-! ## The relation between them -/

/-- An entry that comes back from a document exactly, if its sample is not
from before the start of 1970. -/
structure StoreEntry.Exact (entry : StoreEntry) : Prop where
  updated : entry.updatedAt.InRange
  sampled : entry.sample.time.nanos <
    (Time.secondBound * nanosPerSecond : Nat)
  limit : JsonNumber.reread? entry.sample.cpu.limitCores =
    some entry.sample.cpu.limitCores

/-- An operation that puts only samples whose entries come back exactly. -/
def StoreOperation.Exact : StoreOperation → Prop
  | .put _ sample =>
      sample.time.nanos < (Time.secondBound * nanosPerSecond : Nat) ∧
        JsonNumber.reread? sample.cpu.limitCores = some sample.cpu.limitCores
  | _ => True

theorem StoreEntry.Exact.survives {entry : StoreEntry} (exact : entry.Exact)
    (dated : 0 ≤ entry.sample.time.nanos) : entry.Survives :=
  ⟨exact.updated, ⟨dated, exact.sampled⟩, _, exact.limit⟩

theorem StoreEntry.Exact.reread {entry : StoreEntry} (exact : entry.Exact) :
    entry.reread = entry := by
  simp only [StoreEntry.reread, RawCpu.reread, exact.limit, Option.getD_some]

/-- A session looks like two maps from outside. -/
structure Simulates (path : Path) (lifetime : Option Duration)
    (session : StoreSession) (maps : TwoMaps) : Prop where
  samePath : session.store.path = path
  sameLifetime : session.store.lifetime = lifetime
  /-- The entries of the store are the map in memory. -/
  memory : ∀ key, session.store.entries.find? key = maps.memory key
  /-- The entries that would be found on opening are the map on disk. -/
  disk : ∃ entries,
    (FileStore.openEntries path).found session.host.files = .ok entries ∧
      ∀ key, entries.find? key = maps.disk key
  settled : session.store.Settled session.host.files
  memoryExact : ∀ key entry, maps.memory key = some entry → entry.Exact
  diskExact : ∀ key entry, maps.disk key = some entry → entry.Exact
  clock : ∀ reading, (session.host.clock reading).InRange

namespace EntryMap

theorem isFresh_eq (lifetime : Option Duration) (now : Time)
    (entry : StoreEntry) :
    FileStore.isFresh lifetime now entry =
      !decide (Outlived lifetime now entry) := by
  cases lifetime with
  | none => simp [FileStore.isFresh, Outlived]
  | some duration =>
      cases age : now.since? entry.updatedAt with
      | none =>
          have future : now.nanos < entry.updatedAt.nanos := by
            unfold Time.since? at age
            split at age
            · cases age
            · omega
          have notOutlived : ¬ Outlived (some duration) now entry := by
            rintro ⟨_, ⟨⟩, outlived⟩
            omega
          simp [FileStore.isFresh, age, notOutlived]
      | some passed =>
          have now := Time.since?_eq_some_iff.1 age
          simp only [FileStore.isFresh, age, Outlived, Option.mem_def,
            Option.some.injEq, exists_eq_left']
          rw [← decide_not]
          apply decide_eq_decide.2
          omega

theorem find?_evicted (store : FileStore) (now : Time) (map : EntryMap)
    (same : ∀ key, store.entries.find? key = map key) (key : String) :
    (store.evicted now).entries.find? key = map.keep store.lifetime now key := by
  rw [FileStore.evicted, KeyMap.find?_filter, same, keep]
  congr 1
  funext entry
  exact isFresh_eq store.lifetime now entry

theorem eq_some_of_keep {map : EntryMap} {lifetime : Option Duration}
    {now : Time} {key : String} {entry : StoreEntry}
    (kept : map.keep lifetime now key = some entry) : map key = some entry :=
  (Option.filter_eq_some_iff.1 kept).1

end EntryMap

/-! ## Steps -/

namespace Simulates

variable {path : Path} {lifetime : Option Duration} {session : StoreSession}
    {maps : TwoMaps}

theorem find (related : Simulates path lifetime session maps) (key : String) :
    ∃ next,
      TwoMaps.Step lifetime maps (session.perform (.find key)).1 next ∧
        Simulates path lifetime (session.perform (.find key)).2 next := by
  have performed : session.perform (.find key) =
      (⟨.find key, session.host.clock session.host.readings,
        .found ((maps.memory key).map StoreEntry.sample)⟩, session) := by
    rw [← related.memory key]
    rfl
  rw [performed]
  exact ⟨maps, .find maps _ key, related⟩

theorem put (related : Simulates path lifetime session maps) (key : String)
    (sample : StoredSample) (exact : (StoreOperation.put key sample).Exact) :
    ∃ next,
      TwoMaps.Step lifetime maps (session.perform (.put key sample)).1 next ∧
        Simulates path lifetime (session.perform (.put key sample)).2 next := by
  let now := session.host.clock session.host.readings
  refine ⟨⟨maps.memory.put key ⟨now, sample⟩, maps.disk⟩,
    .put maps now key sample, ?_⟩
  constructor
  · exact related.samePath
  · exact related.sameLifetime
  · intro other
    change (session.store.entries.insert key ⟨now, sample⟩).find? other = _
    rw [KeyMap.find?_insert, related.memory]
    rfl
  · exact related.disk
  · exact related.settled
  · intro other entry found
    change (if key = other then some _ else maps.memory other) = _ at found
    split at found
    · cases found
      exact ⟨related.clock _, exact.1, exact.2⟩
    · exact related.memoryExact other entry found
  · exact related.diskExact
  · exact related.clock

theorem erase (related : Simulates path lifetime session maps) (key : String) :
    ∃ next,
      TwoMaps.Step lifetime maps (session.perform (.erase key)).1 next ∧
        Simulates path lifetime (session.perform (.erase key)).2 next := by
  refine ⟨⟨maps.memory.erase key, maps.disk⟩, .erase maps _ key, ?_⟩
  constructor
  · exact related.samePath
  · exact related.sameLifetime
  · intro other
    change (session.store.entries.erase key).find? other = _
    rw [KeyMap.find?_erase, related.memory]
    rfl
  · exact related.disk
  · exact related.settled
  · intro other entry found
    change (if key = other then none else maps.memory other) = _ at found
    split at found
    · cases found
    · exact related.memoryExact other entry found
  · exact related.diskExact
  · exact related.clock

theorem evicted (related : Simulates path lifetime session maps) (now : Time)
    (key : String) :
    (session.store.evicted now).entries.find? key =
      maps.memory.keep lifetime now key := by
  rw [EntryMap.find?_evicted session.store now maps.memory related.memory key,
    related.sameLifetime]

/-- A document that took its place is read back as what was in memory. -/
theorem readBack (related : Simulates path lifetime session maps) (now : Time)
    (complete : (session.store.evicted now).entries.print.2 = true) :
    (∀ key entry, maps.memory.keep lifetime now key = some entry →
      0 ≤ entry.sample.time.nanos) ∧
    FileStore.readEntries
        (.file (session.store.evicted now).entries.print.1) =
      .ok (session.store.evicted now).entries := by
  have dated : ∀ key entry, maps.memory.keep lifetime now key = some entry →
      0 ≤ entry.sample.time.nanos := by
    intro key entry kept
    rw [← related.evicted now key] at kept
    apply Decidable.byContradiction
    intro earlier
    rw [StoreEntries.print_incomplete kept (Int.not_le.1 earlier)] at complete
    cases complete
  have exact : ∀ key entry,
      (session.store.evicted now).entries.find? key = some entry →
        entry.Exact ∧ 0 ≤ entry.sample.time.nanos := by
    intro key entry found
    rw [related.evicted now key] at found
    exact ⟨related.memoryExact key entry (EntryMap.eq_some_of_keep found),
      dated key entry found⟩
  have survive : (session.store.evicted now).entries.Survive := by
    intro key entry found
    exact (exact key entry found).1.survives (exact key entry found).2
  have same : (session.store.evicted now).entries.reread =
      (session.store.evicted now).entries := by
    refine KeyMap.ext_find? ?_
    intro key
    rw [StoreEntries.reread, KeyMap.find?_mapValues]
    cases found : (session.store.evicted now).entries.find? key with
    | none => rfl
    | some entry => rw [Option.map_some, (exact key entry found).1.reread]
  refine ⟨dated, ?_⟩
  rw [FileStore.readEntries, (StoreEntries.parse?_print survive).2, same]

theorem save (related : Simulates path lifetime session maps)
    (apart : path.extension ≠ some FileStore.draftExtension) :
    ∃ next,
      TwoMaps.Step lifetime maps (session.perform .save).1 next ∧
        Simulates path lifetime (session.perform .save).2 next := by
  let now := session.host.clock session.host.readings
  let kept := session.store.evicted now
  rcases session.store.save_outcome session.host with
    ⟨sameStore, files, reports, final, outcome⟩
  have performed : session.perform .save =
      (⟨.save, now, .done (session.store.save.runOn session.host).1.2⟩,
        ⟨(session.store.save.runOn session.host).1.1,
          (session.store.save.runOn session.host).2⟩) := by
    simp only [StoreSession.perform, FileStore.perform, Task.runOn_bind,
      Task.runOn_pure]
    rfl
  rw [performed, sameStore, final]
  have keptExact : ∀ key entry,
      maps.memory.keep lifetime now key = some entry → entry.Exact := by
    intro key entry found
    exact related.memoryExact key entry (EntryMap.eq_some_of_keep found)
  generalize (session.store.save.runOn session.host).1.2 = result at outcome ⊢
  cases result with
  | error error =>
      have same := outcome.settled
        (show kept.path.extension ≠ _ from related.samePath ▸ apart)
        related.settled
      refine ⟨_, .unsaved maps now error, ?_⟩
      constructor
      · exact related.samePath
      · exact related.sameLifetime
      · exact related.evicted now
      · rcases related.disk with ⟨entries, found, disk⟩
        refine ⟨entries, ?_, disk⟩
        rw [← found, ← related.samePath]
        exact (FileStore.sameDocument_of_openFile same.1).entries
      · exact same.2
      · exact keptExact
      · exact related.diskExact
      · exact related.clock
  | ok saved =>
      rcases outcome.openFile with ⟨complete, opened⟩
      rcases related.readBack now complete with ⟨dated, read⟩
      refine ⟨_, .saved maps now dated, ?_⟩
      constructor
      · exact related.samePath
      · exact related.sameLifetime
      · exact related.evicted now
      · refine ⟨kept.entries, ?_, related.evicted now⟩
        have placed : files.openFile session.store.path =
            .ok (.file kept.entries.print.1) := opened
        rw [← related.samePath, FileStore.found_openEntries, placed]
        simp only [kept, now, read, Except.toOption, Option.getD_some]
      · exact FileStore.settled_of_openFile opened
      · exact keptExact
      · exact keptExact
      · exact related.clock

theorem reopen (related : Simulates path lifetime session maps) :
    ∃ next,
      TwoMaps.Step lifetime maps (session.perform .reopen).1 next ∧
        Simulates path lifetime (session.perform .reopen).2 next := by
  rcases related.disk with ⟨entries, found, disk⟩
  have opened :
      (FileStore.openAt session.store.path session.store.lifetime).found
          session.host.files = .ok ⟨path, lifetime, entries⟩ := by
    rw [related.samePath, related.sameLifetime, FileStore.found_openAt, found]
    rfl
  let reports := session.host.reports ++
    (FileStore.openAt session.store.path session.store.lifetime).reports
      session.host.files
  have performed : session.perform .reopen =
      (⟨.reopen, session.host.clock session.host.readings, .done (.ok ())⟩,
        ⟨⟨path, lifetime, entries⟩, { session.host with reports }⟩) := by
    simp only [StoreSession.perform, FileStore.perform, Task.runOn_bind,
      Task.runOn_ofInquiry, opened, Task.runOn_pure]
    rfl
  rw [performed]
  refine ⟨⟨maps.disk, maps.disk⟩, .reopened maps _, ?_⟩
  constructor
  · rfl
  · rfl
  · exact disk
  · exact ⟨entries, found, disk⟩
  · have settled := related.settled
    simp only [FileStore.Settled, FileStore.prepare, related.samePath] at settled ⊢
    exact settled
  · exact related.diskExact
  · exact related.diskExact
  · exact related.clock

/-- Every operation is a step of the two maps. -/
theorem step (related : Simulates path lifetime session maps)
    (apart : path.extension ≠ some FileStore.draftExtension)
    {operation : StoreOperation} (exact : operation.Exact) :
    ∃ next,
      TwoMaps.Step lifetime maps (session.perform operation).1 next ∧
        Simulates path lifetime (session.perform operation).2 next := by
  cases operation with
  | find key => exact related.find key
  | put key sample => exact related.put key sample exact
  | erase key => exact related.erase key
  | save => exact related.save apart
  | reopen => exact related.reopen

/-- Every run of operations is a run of the two maps. -/
theorem run (related : Simulates path lifetime session maps)
    (apart : path.extension ≠ some FileStore.draftExtension)
    {operations : List StoreOperation}
    (exact : ∀ operation ∈ operations, operation.Exact) :
    ∃ last,
      TwoMaps.Run lifetime maps (session.performAll operations).1 last ∧
        Simulates path lifetime (session.performAll operations).2 last := by
  induction operations generalizing session maps with
  | nil => exact ⟨maps, .nil maps, related⟩
  | cons operation rest ih =>
      rcases related.step apart (exact operation List.mem_cons_self) with
        ⟨next, first, after⟩
      rcases ih after fun other member =>
          exact other (List.mem_cons_of_mem operation member) with
        ⟨last, others, final⟩
      exact ⟨last, .cons first others, final⟩

end Simulates

/-! ## Runs from an absent file -/

/-- A session with a store whose file is absent, as opening leaves it. -/
def StoreSession.start (path : Path) (lifetime : Option Duration)
    (host : Host) : StoreSession :=
  ⟨⟨path, lifetime, KeyMap.empty⟩, host⟩

/-- A store looks like two empty maps when its file is absent and would be
absent too if its directory were made. -/
theorem simulates_start {path : Path} {lifetime : Option Duration}
    {host : Host} (absent : host.files.openFile path = .error .notFound)
    (absentLater :
      ((StoreSession.start path lifetime host).store.prepare
        host.files).1.openFile path = .error .notFound)
    (clock : ∀ reading, (host.clock reading).InRange) :
    Simulates path lifetime (.start path lifetime host) .empty := by
  constructor
  · rfl
  · rfl
  · intro key
    rfl
  · refine ⟨KeyMap.empty, ?_, fun key => rfl⟩
    change (FileStore.openEntries path).found host.files = _
    rw [FileStore.found_openEntries, absent]
    rfl
  · exact absentLater.trans absent.symm
  · intro key entry found
    cases found
  · intro key entry found
    cases found
  · exact clock

/-- Every run of operations on a store whose file is absent at first, and
would be absent too if its directory were made, is a run of two maps that are
empty at first.  In the end the store's entries are the map in memory, and
what would be found on opening is the map on disk. -/
theorem store_in_file_refines_two_maps (path : Path)
    (lifetime : Option Duration) (host : Host)
    (operations : List StoreOperation)
    (apart : path.extension ≠ some FileStore.draftExtension)
    (absent : host.files.openFile path = .error .notFound)
    (absentLater :
      ((StoreSession.start path lifetime host).store.prepare
        host.files).1.openFile path = .error .notFound)
    (clock : ∀ reading, (host.clock reading).InRange)
    (exact : ∀ operation ∈ operations, operation.Exact) :
    let start := StoreSession.start path lifetime host
    (FileStore.openAt path lifetime).found host.files = .ok start.store ∧
      ∃ last : TwoMaps,
        TwoMaps.Run lifetime .empty (start.performAll operations).1 last ∧
        (∀ key, (start.performAll operations).2.store.entries.find? key =
          last.memory key) ∧
        ∃ entries,
          (FileStore.openEntries path).found
              (start.performAll operations).2.host.files = .ok entries ∧
            ∀ key, entries.find? key = last.disk key := by
  intro start
  have related : Simulates path lifetime start .empty :=
    simulates_start absent absentLater clock
  constructor
  · rw [FileStore.found_openAt, FileStore.found_openEntries, absent]
    rfl
  · rcases related.run apart exact with ⟨last, run, after⟩
    exact ⟨last, run, after.memory, after.disk⟩

/-- A sample of a container with one core. -/
def oneCore : StoredSample :=
  ⟨⟨0⟩, ⟨7, 0, 0, [], 0, 1, 0, 0, 0, 0, Float.ofNat 1⟩⟩

theorem exact_put_oneCore (key : String) :
    (StoreOperation.put key oneCore).Exact := by
  constructor
  · decide +kernel
  · decide +kernel

/-- A host without files on which no time passes. -/
def stillHost : Host :=
  .fresh (FileTree.empty []) fun _ => ⟨0⟩

theorem inRange_stillHost (reading : Nat) :
    (stillHost.clock reading).InRange := by
  have start : (⟨0⟩ : Time).InRange := ⟨by decide, by decide⟩
  exact start

/-- An operation that reads what was saved after it was erased. -/
def eraseAndReopen : List StoreOperation :=
  [.put "web" oneCore, .save, .erase "web", .reopen, .find "web"]

theorem exact_eraseAndReopen :
    ∀ operation ∈ eraseAndReopen, operation.Exact := by
  intro operation member
  simp only [eraseAndReopen, List.mem_cons, List.not_mem_nil, or_false] at member
  rcases member with rfl | rfl | rfl | rfl | rfl
  · exact exact_put_oneCore "web"
  · trivial
  · trivial
  · trivial
  · trivial

theorem erase_and_reopen_refines_two_maps :
    ∃ last : TwoMaps,
      TwoMaps.Run (some ⟨5⟩) .empty
        ((StoreSession.start ⟨"samples.json"⟩ (some ⟨5⟩) stillHost).performAll
          eraseAndReopen).1 last := by
  have refined := store_in_file_refines_two_maps ⟨"samples.json"⟩ (some ⟨5⟩)
    stillHost eraseAndReopen (by decide +kernel) (by decide +kernel)
    (by decide +kernel) inRange_stillHost exact_eraseAndReopen
  rcases refined with ⟨-, last, run, -⟩
  exact ⟨last, run⟩

/-! ## A path that goes up -/

/-- A key is in neither map. -/
def TwoMaps.Lacks (maps : TwoMaps) (key : String) : Prop :=
  maps.memory key = none ∧ maps.disk key = none

section Lacks

variable {lifetime : Option Duration} {maps next last : TwoMaps}
    {event : StoreEvent} {events : List StoreEvent} {key : String}

/-- A key that is in neither map is not found, and is in neither map after any
event that does not put it there. -/
theorem TwoMaps.Step.lacks (step : Step lifetime maps event next)
    (lacks : maps.Lacks key)
    (unput : ∀ sample, event.operation ≠ .put key sample) :
    next.Lacks key ∧
      (event.operation = .find key → event.answer = .found none) := by
  rcases lacks with ⟨memory, disk⟩
  have kept (now : Time) : maps.memory.keep lifetime now key = none := by
    rw [EntryMap.keep, memory, Option.filter_none]
  cases step with
  | find now other =>
      refine ⟨⟨memory, disk⟩, ?_⟩
      rintro ⟨rfl⟩
      simp only [memory, Option.map_none]
  | put now other sample =>
      have different : other ≠ key := by
        rintro rfl
        exact unput sample rfl
      refine ⟨⟨?_, disk⟩, by simp⟩
      simp only [EntryMap.put, if_neg different, memory]
  | erase now other =>
      refine ⟨⟨?_, disk⟩, by simp⟩
      simp only [EntryMap.erase, memory, ite_self]
  | saved now dated => exact ⟨⟨kept now, kept now⟩, by simp⟩
  | unsaved now error => exact ⟨⟨kept now, disk⟩, by simp⟩
  | reopened now => exact ⟨⟨disk, disk⟩, by simp⟩

/-- What is in neither map at first and is never put is never found. -/
theorem TwoMaps.Run.answer_of_find (run : Run lifetime maps events last)
    (lacks : maps.Lacks key)
    (unput : ∀ event ∈ events, ∀ sample, event.operation ≠ .put key sample)
    (member : event ∈ events) (find : event.operation = .find key) :
    event.answer = .found none := by
  induction run with
  | nil maps => cases member
  | cons step run ih =>
      rcases step.lacks lacks (unput _ List.mem_cons_self) with
        ⟨lacksAfter, answer⟩
      rcases List.mem_cons.1 member with rfl | later
      · exact answer find
      · exact ih lacksAfter
          (fun other member => unput other (List.mem_cons_of_mem _ member))
          later

end Lacks

namespace StoreSession

theorem map_operation_performAll (session : StoreSession)
    (operations : List StoreOperation) :
    (session.performAll operations).1.map StoreEvent.operation =
      operations := by
  induction operations generalizing session with
  | nil => rfl
  | cons operation rest ih => exact congrArg _ (ih _)

theorem mem_performAll (session : StoreSession)
    (before after : List StoreOperation) (operation : StoreOperation) :
    ((session.performAll before).2.perform operation).1 ∈
      (session.performAll (before ++ operation :: after)).1 := by
  induction before generalizing session with
  | nil => exact List.mem_cons_self
  | cons first before ih => exact List.mem_cons_of_mem _ (ih _)

end StoreSession

/-- A path that goes up from a directory that is missing at first. -/
def upward : Path := ⟨"d/../x.json"⟩

/-- A host with a document of another store. -/
def documentHost : Host :=
  let entries : StoreEntries := KeyMap.empty.insert "web" ⟨⟨0⟩, oneCore⟩
  let document := Entry.file entries.print.1
  .fresh ((FileTree.empty []).setEntry ["x.json"] (some document)) fun _ => ⟨0⟩

/-- Operations that open a store again after they failed to save it, for a
sample from before the start of 1970. -/
def saveEarlyAndReopen : List StoreOperation :=
  [.put "job" { oneCore with time := ⟨-1⟩ }, .save, .reopen]

theorem exact_saveEarlyAndReopen :
    ∀ operation ∈ saveEarlyAndReopen ++ [.find "web"],
      StoreOperation.Exact operation := by
  intro operation member
  simp only [saveEarlyAndReopen, List.cons_append, List.nil_append,
    List.mem_cons, List.not_mem_nil, or_false] at member
  rcases member with rfl | rfl | rfl | rfl
  · exact ⟨by decide, (exact_put_oneCore "job").2⟩
  · trivial
  · trivial
  · trivial

/-- At such a path the file is absent until a save has made the missing
directory.  A save that fails after that leaves the directory, through which
the path leads to the document, and its entries are found though they were
never put. -/
theorem upward_path_refines_no_two_maps :
    upward.extension ≠ some FileStore.draftExtension ∧
      documentHost.files.openFile upward = .error .notFound ∧
      (∀ reading, (documentHost.clock reading).InRange) ∧
      (∀ operation ∈ saveEarlyAndReopen ++ [.find "web"],
        StoreOperation.Exact operation) ∧
      ¬ ∃ last, TwoMaps.Run none .empty
        ((StoreSession.start upward none documentHost).performAll
          (saveEarlyAndReopen ++ [.find "web"])).1 last := by
  refine ⟨by decide +kernel, by decide +kernel, inRange_stillHost,
    exact_saveEarlyAndReopen, ?_⟩
  rintro ⟨last, run⟩
  let start := StoreSession.start upward none documentHost
  have found : (SampleStore.find? (start.performAll saveEarlyAndReopen).2.store
      "web").isSome = true := by
    decide +kernel
  have unput : ∀ event ∈
      (start.performAll (saveEarlyAndReopen ++ [.find "web"])).1,
        ∀ sample, event.operation ≠ .put "web" sample := by
    intro event member sample put
    have performed := List.mem_map_of_mem (f := StoreEvent.operation) member
    rw [StoreSession.map_operation_performAll, put] at performed
    simp [saveEarlyAndReopen] at performed
  have expected := run.answer_of_find ⟨rfl, rfl⟩ unput
    (start.mem_performAll saveEarlyAndReopen [] (.find "web")) rfl
  have answer : ((start.performAll saveEarlyAndReopen).2.perform (.find
      "web")).1.answer = .found (SampleStore.find?
        (start.performAll saveEarlyAndReopen).2.store "web") := rfl
  rw [answer, StoreAnswer.found.injEq] at expected
  rw [expected] at found
  cases found

end CgroupMeter
