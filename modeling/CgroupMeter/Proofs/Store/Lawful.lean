import CgroupMeter.Store.Basic
import CgroupMeter.Store.File

/-!
# The laws of sample stores

Whatever a store is kept in, a look-up finds the sample that was put last
under its key and finds nothing under an erased key, and neither operation
touches another key.  A map and a store that is kept in a file both obey.
-/

namespace CgroupMeter

/-- A sample store whose look-ups see what was put and erased. -/
class LawfulSampleStore (Store : Type) [SampleStore Store] : Prop where
  find?_put : ∀ (store : Store) (now : Time) (key other : String)
    (sample : StoredSample),
    SampleStore.find? (SampleStore.put store now key sample) other =
      if key = other then some sample else SampleStore.find? store other
  find?_erase : ∀ (store : Store) (key other : String),
    SampleStore.find? (SampleStore.erase store key) other =
      if key = other then none else SampleStore.find? store other

instance : LawfulSampleStore MemoryStore where
  find?_put store _ key other sample :=
    KeyMap.find?_insert store key other sample
  find?_erase store key other := KeyMap.find?_erase store key other

namespace FileStore

theorem find?_eq (store : FileStore) (key : String) :
    SampleStore.find? store key =
      (store.entries.find? key).map StoreEntry.sample := rfl

theorem entries_put (store : FileStore) (now : Time) (key : String)
    (sample : StoredSample) :
    (SampleStore.put store now key sample).entries =
      store.entries.insert key ⟨now, sample⟩ := rfl

theorem entries_erase (store : FileStore) (key : String) :
    (SampleStore.erase store key).entries = store.entries.erase key := rfl

end FileStore

instance : LawfulSampleStore FileStore where
  find?_put store now key other sample := by
    rw [FileStore.find?_eq, FileStore.entries_put, KeyMap.find?_insert]
    split
    · rfl
    · rfl
  find?_erase store key other := by
    rw [FileStore.find?_eq, FileStore.entries_erase, KeyMap.find?_erase]
    split
    · rfl
    · rfl

end CgroupMeter
