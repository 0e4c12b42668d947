import CgroupMeter.Host.Task
import CgroupMeter.Store.Basic
import CgroupMeter.Store.Document
import CgroupMeter.Store.Error

/-!
# Stores in files

A store can be kept in a file between runs.  Opening reads the whole file;
after that the samples are in memory, until saving writes the file anew: first
beside its path, so that a failure leaves the last saved document as it was,
and then in place of it.  Entries that were not put into the store within its
lifetime are dropped on saving.
-/

namespace CgroupMeter

/-- A store that is kept in a file. -/
structure FileStore where
  /-- The path of the file. -/
  path : Path
  /-- How long an entry is kept after it was put into the store.  Without a
  lifetime, entries are kept for ever. -/
  lifetime : Option Duration
  /-- The entries by container. -/
  entries : StoreEntries

namespace FileStore

instance : SampleStore FileStore where
  find? store key := (store.entries.find? key).map StoreEntry.sample
  put store now key sample :=
    { store with entries := store.entries.insert key ⟨now, sample⟩ }
  erase store key := { store with entries := store.entries.erase key }

/-! ## Opening -/

/-- The entries in an opened file, or why there are none that can be used. -/
def readEntries : Entry → Except String StoreEntries
  | .directory => .error OsError.isADirectory.message
  | .file bytes =>
      match StoreEntries.parse? bytes with
      | some entries => .ok entries
      | none => .error "not a document of samples"

/-- The entries in the file at a path.  A missing file has none, and the
content of a file that is no document is discarded. -/
def openEntries (path : Path) : Inquiry (Except StoreError StoreEntries) := do
  match ← Inquiry.openFile path with
  | .ok opened =>
      match readEntries opened with
      | .ok entries => return .ok entries
      | .error cause => do
          Inquiry.report .warn
            s!"Discarding unreadable sample store `{path.text}`: {cause}"
          return .ok KeyMap.empty
  | .error error =>
      if error.isNotFound then do
        Inquiry.report .debug s!"Sample store `{path.text}` does not exist yet"
        return .ok KeyMap.empty
      else return .error (.read error.path error.cause)

/-- Open the store at a path. -/
def openAt (path : Path) (lifetime : Option Duration) :
    Inquiry (Except StoreError FileStore) := do
  match ← openEntries path with
  | .error error => return .error error
  | .ok entries => do
      Inquiry.report .debug
        s!"Opened sample store `{path.text}` with {entries.size} entries"
      return .ok ⟨path, lifetime, entries⟩

/-! ## Saving -/

/-- An entry is still to be kept at a moment.  One that was put into the store
later than that is. -/
def isFresh (lifetime : Option Duration) (now : Time) (entry : StoreEntry) :
    Bool :=
  match lifetime, now.since? entry.updatedAt with
  | some lifetime, some age => age.nanos ≤ lifetime.nanos
  | _, _ => true

/-- The store without the entries that are not to be kept. -/
def evicted (store : FileStore) (now : Time) : FileStore :=
  { store with
    entries := store.entries.filter fun _ entry =>
      isFresh store.lifetime now entry }

/-- The names of the entries that are not to be kept. -/
def staleKeys (store : FileStore) (now : Time) : List String :=
  (store.entries.entries.filter fun entry =>
    !isFresh store.lifetime now entry.2).map Prod.fst

/-- Where the document is written before it takes its place. -/
def draftPath (store : FileStore) : Path :=
  store.path.withExtension "tmp"

/-- Make the directory of the file, if its path has one. -/
def makeDirectory (store : FileStore) : Task (Except StoreError Unit) := do
  match store.path.parent with
  | none => return .ok ()
  | some directory =>
      return (← Task.makeDirectories directory).mapError (.write directory)

/-- Write the document in place of the one in the file.  The draft is made,
written and closed in one action, which is refused before anything was changed
or not at all. -/
def writeDocument (store : FileStore) : Task (Except StoreError Unit) := do
  match ← store.makeDirectory with
  | .error error => return .error error
  | .ok () =>
      let (bytes, complete) := store.entries.print
      match ← Task.writeFile store.draftPath bytes with
      | .error cause => return .error (.write store.draftPath cause)
      | .ok () =>
          if complete then
            return (← Task.rename store.draftPath store.path).mapError
              (.write store.path)
          else return .error .encode

/-- Drop the entries that are not to be kept and write the others into the
file. -/
def save (store : FileStore) : Task (FileStore × Except StoreError Unit) := do
  let now ← Task.readClock
  (store.staleKeys now).forM fun key =>
    Task.report .debug s!"Evicting stale sample of `{key}`"
  let kept := store.evicted now
  let result ← kept.writeDocument
  if result matches .ok () then
    Task.report .debug
      s!"Saved {kept.entries.size} samples to `{kept.path.text}`"
  return (kept, result)

end FileStore

end CgroupMeter
