import CgroupMeter.KeyMap
import CgroupMeter.Store.Sample

/-!
# Sample stores

A store keeps the last sample of each container under its name.  The simplest
store is a map.
-/

namespace CgroupMeter

/-- Stores of samples. -/
class SampleStore (Store : Type) where
  /-- The sample of a container. -/
  find? : Store → String → Option StoredSample
  /-- The store with a sample of a container, put there at a moment. -/
  put : Store → Time → String → StoredSample → Store
  /-- The store without the sample of a container. -/
  erase : Store → String → Store

/-- A store that is not kept when the program ends. -/
abbrev MemoryStore := KeyMap StoredSample

instance : SampleStore MemoryStore where
  find? := KeyMap.find?
  put store _ key sample := store.insert key sample
  erase := KeyMap.erase

end CgroupMeter
