import CgroupMeter.Proofs.Store.TwoMaps
import CgroupMeter.Proofs.Text.Order
import Mathlib.Data.Set.Finite.Basic

/-!
# Documents are canonical

A map of entries has one document.  It is written for every store that holds
the map, however that came about, it lists the keys by ascending bytes, and it
is read back as the map, so that it is written again when the store that was
read is saved.

Entries are to come back exactly, which for the number of CPUs is a matter of
the number reader, and their samples are not to be from before 1970.
-/

namespace CgroupMeter

/-! ## Maps without a form -/

namespace KeyMap

variable {α : Type}

theorem finite_keys (map : KeyMap α) : {key | map.find? key ≠ none}.Finite := by
  refine (map.entries.map Prod.fst).toFinset.finite_toSet.subset ?_
  intro key present
  rcases Option.ne_none_iff_exists'.1 present with ⟨value, found⟩
  simp only [List.coe_toFinset, List.mem_map, Set.mem_ofPred_eq]
  exact ⟨(key, value), mem_entries_iff.2 found, rfl⟩

theorem exists_of_keys (values : String → Option α) (keys : List String) :
    ∃ map : KeyMap α, ∀ key,
      map.find? key = if key ∈ keys then values key else none := by
  induction keys with
  | nil => exact ⟨empty, fun key => by simp⟩
  | cons first keys ih =>
      rcases ih with ⟨map, found⟩
      cases present : values first with
      | none =>
          refine ⟨map, ?_⟩
          intro key
          rw [found]
          by_cases same : key = first
          · simp [same, present]
          · simp [same]
      | some value =>
          refine ⟨map.insert first value, ?_⟩
          intro key
          rw [find?_insert, found]
          by_cases same : key = first
          · simp [same, present]
          · simp [same, Ne.symm same]

/-- Every finite map has its form. -/
theorem exists_of_finite {values : String → Option α}
    (finite : {key | values key ≠ none}.Finite) :
    ∃ map : KeyMap α, ∀ key, map.find? key = values key := by
  rcases exists_of_keys values finite.toFinset.toList with ⟨map, found⟩
  refine ⟨map, ?_⟩
  intro key
  rw [found]
  cases present : values key with
  | none => simp
  | some value =>
      have listed : key ∈ finite.toFinset.toList := by simp [present]
      rw [if_pos listed]

end KeyMap

/-! ## Changes of a store -/

/-- A change of what a store holds. -/
inductive StoreChange where
  | put (now : Time) (key : String) (sample : StoredSample)
  | erase (key : String)

/-- The map after a change. -/
def EntryMap.change (map : EntryMap) : StoreChange → EntryMap
  | .put now key sample => map.put key ⟨now, sample⟩
  | .erase key => map.erase key

namespace FileStore

/-- The entries of a store as a map. -/
def map (store : FileStore) : EntryMap := store.entries.find?

/-- The store after a change. -/
def change (store : FileStore) : StoreChange → FileStore
  | .put now key sample => SampleStore.put store now key sample
  | .erase key => SampleStore.erase store key

theorem map_change (store : FileStore) (change : StoreChange) :
    (store.change change).map = store.map.change change := by
  funext key
  cases change with
  | put now other sample =>
      rw [map, FileStore.change, entries_put, KeyMap.find?_insert]
      rfl
  | erase other =>
      rw [map, FileStore.change, entries_erase, KeyMap.find?_erase]
      rfl

/-- Changes in turn make of a store what they make of its map, and leave its
path and its lifetime. -/
theorem foldl_change (store : FileStore) (changes : List StoreChange) :
    (changes.foldl change store).map =
        changes.foldl EntryMap.change store.map ∧
      (changes.foldl change store).path = store.path ∧
      (changes.foldl change store).lifetime = store.lifetime := by
  induction changes generalizing store with
  | nil => exact ⟨rfl, rfl, rfl⟩
  | cons first changes ih =>
      rcases ih (store.change first) with ⟨maps, paths, lifetimes⟩
      rw [map_change] at maps
      refine ⟨maps, paths.trans ?_, lifetimes.trans ?_⟩
      · cases first <;> rfl
      · cases first <;> rfl

end FileStore

/-! ## The document of a map -/

/-- An entry that comes back from a document as it was. -/
structure StoreEntry.Lossless (entry : StoreEntry) : Prop where
  exact : entry.Exact
  dated : 0 ≤ entry.sample.time.nanos

/-- A text is read as a map, and lists its keys by ascending bytes. -/
structure EntryMap.IsDocument (map : EntryMap) (bytes : List UInt8) : Prop where
  read : ∃ entries, StoreEntries.parse? bytes = some entries ∧
    ∀ key, entries.find? key = map key
  listed : ∃ (keys : List String) (members : List (Option String × ReadJson)),
    Json.parse bytes = some (.object members) ∧
      members.map Prod.fst = keys.map some ∧
      (keys.Pairwise fun key other => Text.toBytes key < Text.toBytes other) ∧
      ∀ key, key ∈ keys ↔ map key ≠ none

namespace StoreEntries

variable {entries : StoreEntries}
    (lossless : ∀ key entry, entries.find? key = some entry → entry.Lossless)

include lossless

theorem survive_of_lossless : entries.Survive := by
  intro key entry found
  have kept := lossless key entry found
  exact kept.exact.survives kept.dated

theorem reread_of_lossless : entries.reread = entries := by
  refine KeyMap.ext_find? ?_
  intro key
  rw [reread, KeyMap.find?_mapValues]
  cases found : entries.find? key with
  | none => rfl
  | some entry =>
      rw [Option.map_some, (lossless key entry found).exact.reread]

/-- The document lists the entries in the order of the map. -/
theorem parse_print_eq :
    ∃ members, Json.parse entries.print.1 = some (.object members) ∧
      members.map Prod.fst = (entries.entries.map Prod.fst).map some := by
  have survives : ∀ entry ∈ entries.entries, entry.2.Survives := by
    intro entry member
    exact survive_of_lossless lossless entry.1 entry.2
      (KeyMap.mem_entries_iff.1 member)
  rcases toJson_eq_ok survives with ⟨members, same, -⟩
  have written : toJson entries = .ok (.object members) := by
    rw [toJson, same, Json.objectOf_ok]
  have names : members.map Prod.fst = entries.entries.map Prod.fst := by
    simpa [Function.comp_def] using (congrArg (List.map Prod.fst) same).symm
  refine ⟨Json.membersAsRead members, ?_, ?_⟩
  · rw [print, written]
    simp only [Json.printUpTo, Json.parse_print, Json.asRead]
  · rw [← names]
    clear same written names
    induction members with
    | nil => rfl
    | cons member members ih =>
        simp only [Json.membersAsRead, List.map_cons, ih]

theorem isDocument_print : EntryMap.IsDocument entries.find? entries.print.1 := by
  constructor
  · refine ⟨entries, ?_, fun key => rfl⟩
    rw [(parse?_print (survive_of_lossless lossless)).2,
      reread_of_lossless lossless]
  · rcases parse_print_eq lossless with ⟨members, parsed, names⟩
    refine ⟨entries.entries.map Prod.fst, members, parsed, names, ?_, ?_⟩
    · rw [List.pairwise_map]
      exact entries.sorted.imp fun less => Text.toBytes_lt less
    · intro key
      rw [List.mem_map, Option.ne_none_iff_exists']
      constructor
      · rintro ⟨⟨_, entry⟩, member, rfl⟩
        exact ⟨entry, KeyMap.mem_entries_iff.1 member⟩
      · rintro ⟨entry, found⟩
        exact ⟨(key, entry), KeyMap.mem_entries_iff.2 found, rfl⟩

end StoreEntries

namespace FileStore

/-- A store that keeps a map when it is saved writes the one document of that
map, unless the file cannot be written, and is opened as the map then. -/
theorem save_of_keep {entries : StoreEntries}
    (lossless : ∀ key entry, entries.find? key = some entry → entry.Lossless)
    {store : FileStore} {host : Host}
    (kept : store.map.keep store.lifetime (host.clock host.readings) =
      entries.find?)
    (written : ∀ path cause,
      (store.save.runOn host).1.2 ≠ .error (.write path cause)) :
    (store.save.runOn host).1.2 = .ok () ∧
      (store.save.runOn host).2.files.openFile store.path =
        .ok (.file (StoreEntries.print entries).1) ∧
      (openAt store.path store.lifetime).found
          (store.save.runOn host).2.files =
        .ok ⟨store.path, store.lifetime, entries⟩ := by
  have same :
      (store.evicted (host.clock host.readings)).entries = entries := by
    refine KeyMap.ext_find? ?_
    intro key
    rw [EntryMap.find?_evicted store _ store.map (fun _ => rfl), kept]
  have document :=
    StoreEntries.parse?_print (StoreEntries.survive_of_lossless lossless)
  rcases store.save_outcome host with ⟨-, files, reports, left, outcome⟩
  have complete :
      (store.evicted (host.clock host.readings)).entries.print.2 = true := by
    rw [same]
    exact document.1
  have saved := outcome.eq_ok complete written
  rw [saved] at outcome
  have placed :
      (store.save.runOn host).2.files.openFile store.path =
        .ok (.file (StoreEntries.print entries).1) := by
    rw [left, ← same]
    exact outcome.openFile.2
  refine ⟨saved, placed, ?_⟩
  rw [found_openAt, found_openEntries, placed]
  simp only [readEntries, document.2, StoreEntries.reread_of_lossless lossless]
  rfl

/-- Every finite map has one document, which is written by every store that
keeps the map when it is saved, whatever changes made it so, unless its file
cannot be written.  The document lists the keys by ascending bytes and is
opened as the map, and what was opened writes the same document again, if
nothing is dropped then. -/
theorem documents_are_canonical (map : EntryMap)
    (finite : {key | map key ≠ none}.Finite)
    (lossless : ∀ key entry, map key = some entry → entry.Lossless) :
    ∃ bytes, map.IsDocument bytes ∧
      ∀ (start : FileStore) (changes : List StoreChange) (host : Host),
        let saved := (changes.foldl change start).save.runOn host
        (changes.foldl EntryMap.change start.map).keep start.lifetime
            (host.clock host.readings) = map →
          (∀ path cause, saved.1.2 ≠ .error (.write path cause)) →
            saved.1.2 = .ok () ∧
              saved.2.files.openFile start.path = .ok (.file bytes) ∧
              ∃ opened,
                (openAt start.path start.lifetime).found saved.2.files =
                    .ok opened ∧
                  opened.map = map ∧
                  ∀ later : Host,
                    let again := opened.save.runOn later
                    map.keep start.lifetime (later.clock later.readings) =
                        map →
                      (∀ path cause, again.1.2 ≠ .error (.write path cause)) →
                        again.1.2 = .ok () ∧
                          again.2.files.openFile start.path =
                            .ok (.file bytes) := by
  rcases KeyMap.exists_of_finite finite with ⟨entries, found⟩
  obtain rfl : entries.find? = map := funext found
  refine ⟨StoreEntries.print entries |>.1, StoreEntries.isDocument_print lossless, ?_⟩
  intro start changes host saved kept written
  rcases start.foldl_change changes with ⟨maps, paths, lifetimes⟩
  rw [← maps, ← lifetimes] at kept
  have first := save_of_keep lossless kept written
  rw [paths, lifetimes] at first
  refine ⟨first.1, first.2.1, _, first.2.2, rfl, ?_⟩
  intro later again keptAgain writtenAgain
  have second := @save_of_keep entries lossless
    ⟨start.path, start.lifetime, entries⟩ later keptAgain writtenAgain
  exact ⟨second.1, second.2.1⟩

end FileStore

/-! ## Keys that have to be escaped -/

/-- Changes that put samples under keys with a quote, a backslash, a line feed
and a character that is not ASCII. -/
def oddKeys : List StoreChange :=
  [.put ⟨0⟩ "é" oneCore, .put ⟨0⟩ "\"\\" oneCore, .put ⟨0⟩ "a\nb" oneCore]

theorem lossless_oneCore : (⟨⟨0⟩, oneCore⟩ : StoreEntry).Lossless :=
  ⟨⟨⟨by decide, by decide⟩, (exact_put_oneCore "").1, (exact_put_oneCore "").2⟩,
    by decide⟩

/-- What is saved does not fail to be written. -/
theorem not_write_of_isOk {result : Except StoreError Unit}
    (saved : result.isOk = true) (path : Path) (cause : OsError) :
    result ≠ .error (.write path cause) := by
  rintro rfl
  cases saved

theorem odd_keys_saved_in_either_order :
    let start : FileStore := ⟨⟨"samples.json"⟩, some ⟨5⟩, KeyMap.empty⟩
    let saved (changes : List StoreChange) :=
      (changes.foldl FileStore.change start).save.runOn stillHost
    ∃ bytes opened,
      (saved oddKeys).2.files.openFile start.path = .ok (.file bytes) ∧
        (saved oddKeys.reverse).2.files.openFile start.path =
          .ok (.file bytes) ∧
        (FileStore.openAt start.path start.lifetime).found
            (saved oddKeys).2.files = .ok opened ∧
        (opened.save.runOn
            { stillHost with files := (saved oddKeys).2.files }).2.files.openFile
            start.path =
          .ok (.file bytes) := by
  intro start saved
  let entries := (oddKeys.foldl FileStore.change start).entries
  have same : entries.find? = oddKeys.foldl EntryMap.change start.map :=
    (start.foldl_change oddKeys).1
  have reversed :
      oddKeys.reverse.foldl EntryMap.change start.map = entries.find? := by
    rw [same]
    funext key
    simp only [oddKeys, List.reverse_cons, List.reverse_nil, List.nil_append,
      List.cons_append, List.foldl_cons, List.foldl_nil, EntryMap.change,
      EntryMap.put]
    split_ifs <;> rfl
  have only (key : String) (entry : StoreEntry)
      (found : entries.find? key = some entry) :
      entry = ⟨⟨0⟩, oneCore⟩ := by
    rw [same] at found
    simp only [oddKeys, List.foldl_cons, List.foldl_nil, EntryMap.change,
      EntryMap.put] at found
    split_ifs at found
    · cases found
      rfl
    · cases found
      rfl
    · cases found
      rfl
    · cases found
  have lossless (key : String) (entry : StoreEntry)
      (found : entries.find? key = some entry) : entry.Lossless := by
    rw [only key entry found]
    exact lossless_oneCore
  have kept : EntryMap.keep entries.find? (some ⟨5⟩) ⟨0⟩ = entries.find? := by
    funext key
    rw [EntryMap.keep]
    cases found : entries.find? key with
    | none => rfl
    | some entry =>
        have fresh : ¬ EntryMap.Outlived (some ⟨5⟩) ⟨0⟩ ⟨⟨0⟩, oneCore⟩ := by
          decide
        rw [only key entry found, Option.filter_some]
        simp only [fresh, decide_false, Bool.not_false, if_true]
  rcases FileStore.documents_are_canonical entries.find? entries.finite_keys
    lossless with ⟨bytes, -, writes⟩
  have first := writes start oddKeys stillHost (by rw [← same]; exact kept)
    (not_write_of_isOk (by decide +kernel))
  have second := writes start oddKeys.reverse stillHost
    (by rw [reversed]; exact kept) (not_write_of_isOk (by decide +kernel))
  rcases first with ⟨-, placed, opened, read, -, again⟩
  have resaved :
      (((FileStore.openAt start.path start.lifetime).found
        (saved oddKeys).2.files).bind fun opened =>
          (opened.save.runOn
            { stillHost with files := (saved oddKeys).2.files }).1.2).isOk =
        true := by
    decide +kernel
  rw [read] at resaved
  exact ⟨bytes, opened, placed, second.2.1, read,
    (again { stillHost with files := (saved oddKeys).2.files } kept
      (not_write_of_isOk resaved)).2⟩

end CgroupMeter
