import CgroupMeter.Host.FileTree
import CgroupMeter.Proofs.Path.Segments

/-!
# Following paths in changed trees

A path that is followed to its end needs a directory at every place it passes.
A tree that keeps these directories therefore leads the path to the same
place, whatever else has changed.

The operations that write to a tree are described by the place of what they
write: the directory that the outer segments of the path lead to, and its last
name.
-/

namespace CgroupMeter.FileTree

/-- Follow segments one after another. -/
def walk (tree : FileTree) (location : Location) (segments : List String) :
    Except OsError Location :=
  segments.foldlM tree.follow location

theorem walk_nil (tree : FileTree) (location : Location) :
    tree.walk location [] = .ok location := rfl

theorem walk_cons (tree : FileTree) (location : Location) (segment : String)
    (rest : List String) :
    tree.walk location (segment :: rest) =
      (tree.follow location segment).bind fun next => tree.walk next rest := by
  rw [walk, List.foldlM_cons]
  rfl

theorem walk_append (tree : FileTree) (location : Location)
    (first second : List String) :
    tree.walk location (first ++ second) =
      (tree.walk location first).bind fun next => tree.walk next second := by
  rw [walk, List.foldlM_append]
  rfl

theorem walk_cons_eq_ok_iff {tree : FileTree} {location place : Location}
    {segment : String} {rest : List String} :
    tree.walk location (segment :: rest) = .ok place ↔
      ∃ next, tree.follow location segment = .ok next ∧
        tree.walk next rest = .ok place := by
  rw [walk_cons]
  cases followed : tree.follow location segment with
  | error cause => simp [Except.bind]
  | ok next => simp [Except.bind]

theorem walk_append_eq_ok_iff {tree : FileTree} {location place : Location}
    {first second : List String} :
    tree.walk location (first ++ second) = .ok place ↔
      ∃ next, tree.walk location first = .ok next ∧
        tree.walk next second = .ok place := by
  rw [walk_append]
  cases walked : tree.walk location first with
  | error cause => simp [Except.bind]
  | ok next => simp [Except.bind]

theorem resolve_eq (tree : FileTree) (path : Path) :
    tree.resolve path =
      (checkText path).bind fun _ => tree.walk (tree.start path) path.segments :=
  rfl

/-! ## Single steps -/

theorem follow_eq_ok {tree : FileTree} {location next : Location}
    {segment : String} (followed : tree.follow location segment = .ok next) :
    tree.entry location = some .directory := by
  unfold follow at followed
  split at followed
  · cases followed
  · cases followed
  · rename_i directory
    exact directory

theorem follow_void {tree : FileTree} {location : Location} {segment : String}
    (directory : tree.entry location = some .directory)
    (void : Path.isVoid segment = true) :
    tree.follow location segment = .ok location := by
  simp [follow, directory, void]

theorem follow_up {tree : FileTree} {location : Location}
    (directory : tree.entry location = some .directory) :
    tree.follow location ".." = .ok location.tail := by
  have notVoid : Path.isVoid ".." = false := by decide
  simp [follow, directory, notVoid]

theorem follow_name {tree : FileTree} {location : Location} {name : String}
    (directory : tree.entry location = some .directory)
    (named : Path.isVoid name = false) (notUp : name ≠ "..") :
    tree.follow location name =
      if nameLimit < name.utf8ByteSize then .error .nameTooLong
      else if (tree.entry (name :: location)).isSome then .ok (name :: location)
      else .error .notFound := by
  simp [follow, directory, named, notUp]

/-- Two trees with the same directory at a location and the same entry behind
a segment agree on that segment. -/
theorem follow_congr {before after : FileTree} {location next : Location}
    {segment : String} (followed : before.follow location segment = .ok next)
    (kept : after.entry location = some .directory)
    (present : (after.entry next).isSome = true) :
    after.follow location segment = .ok next := by
  have directory := follow_eq_ok followed
  by_cases void : Path.isVoid segment = true
  · rw [follow_void directory void] at followed
    rw [follow_void kept void, followed]
  · have named : Path.isVoid segment = false := by simpa using void
    by_cases up : segment = ".."
    · subst up
      rw [follow_up directory] at followed
      rw [follow_up kept, followed]
    · rw [follow_name directory named up] at followed
      rw [follow_name kept named up]
      split at followed
      · cases followed
      · rename_i short
        split at followed
        · cases followed
          rw [if_neg short, if_pos present]
        · cases followed

/-! ## Walks in changed trees -/

/-- A tree has every directory of another one. -/
def KeepsDirectories (before after : FileTree) : Prop :=
  ∀ location, before.entry location = some .directory →
    after.entry location = some .directory

/-- A walk ends at the same place in a tree that has all directories, if there
is anything at that place. -/
theorem walk_of_keepsDirectories {before after : FileTree}
    (keeps : before.KeepsDirectories after) {location place : Location}
    {segments : List String}
    (walked : before.walk location segments = .ok place)
    (present : (after.entry place).isSome = true) :
    after.walk location segments = .ok place := by
  induction segments generalizing location with
  | nil => exact walked
  | cons segment rest ih =>
      rcases walk_cons_eq_ok_iff.1 walked with ⟨next, followed, others⟩
      have nextPresent : (after.entry next).isSome = true := by
        cases rest with
        | nil =>
            obtain rfl : next = place := Except.ok.inj others
            exact present
        | cons second rest =>
            rcases walk_cons_eq_ok_iff.1 others with ⟨_, again, -⟩
            rw [keeps next (follow_eq_ok again)]
            rfl
      have step :=
        follow_congr followed (keeps location (follow_eq_ok followed)) nextPresent
      exact walk_cons_eq_ok_iff.2 ⟨next, step, ih others⟩

/-- Segments that name nothing lead nowhere else, if they lead anywhere. -/
theorem walk_void {tree : FileTree} {location : Location}
    {segments : List String}
    (void : ∀ segment ∈ segments, Path.isVoid segment = true)
    (directory : tree.entry location = some .directory) :
    tree.walk location segments = .ok location := by
  induction segments with
  | nil => rfl
  | cons segment rest ih =>
      have first := void segment List.mem_cons_self
      have others := ih fun other member =>
        void other (List.mem_cons_of_mem segment member)
      exact walk_cons_eq_ok_iff.2 ⟨location, follow_void directory first, others⟩

theorem eq_of_walk_void {tree : FileTree} {location place : Location}
    {segments : List String}
    (void : ∀ segment ∈ segments, Path.isVoid segment = true)
    (walked : tree.walk location segments = .ok place) : place = location := by
  cases segments with
  | nil => exact (Except.ok.inj walked).symm
  | cons segment rest =>
      rcases walk_cons_eq_ok_iff.1 walked with ⟨next, followed, -⟩
      rw [walk_void void (follow_eq_ok followed)] at walked
      exact (Except.ok.inj walked).symm

/-- Whether segments that name nothing can be followed depends only on what
stands at the place. -/
theorem walk_void_congr {before after : FileTree} {location : Location}
    {segments : List String}
    (void : ∀ segment ∈ segments, Path.isVoid segment = true)
    (same : after.entry location = before.entry location) :
    after.walk location segments = before.walk location segments := by
  cases segments with
  | nil => rfl
  | cons segment rest =>
      rw [walk_cons, walk_cons]
      cases found : before.entry location with
      | none =>
          rw [found] at same
          simp [follow, same, found, Except.bind]
      | some entry =>
          rw [found] at same
          cases entry with
          | file bytes => simp [follow, same, found, Except.bind]
          | directory =>
              have first := void segment List.mem_cons_self
              have others : ∀ other ∈ rest, Path.isVoid other = true :=
                fun other member => void other (List.mem_cons_of_mem segment member)
              rw [follow_void same first, follow_void found first]
              simp only [Except.bind]
              rw [walk_void others same, walk_void others found]

/-! ## Places -/

/-- The place where a path puts an entry: its outer segments lead to a
directory, and its last name is one that an entry can have. -/
structure Placed (tree : FileTree) (path : Path) (directory : Location)
    (name : String) (slashes : List String) : Prop where
  text : checkText path = .ok ()
  ends : ∃ outer, path.EndsIn outer name slashes ∧
    tree.walk (tree.start path) outer = .ok directory
  slashes : ∀ segment ∈ slashes, segment = ""
  notUp : name ≠ ".."
  short : name.utf8ByteSize ≤ nameLimit
  directory : tree.entry directory = some .directory

/-- A path whose last segment with anything in it names something ends in
that name. -/
theorem endsIn_of_reversed {path : Path} {name : String} {outer : List String}
    (reversed : path.segments.reverse.dropWhile (· == "") = name :: outer)
    (notDot : name ≠ ".") :
    ∃ slashes, path.EndsIn outer.reverse name slashes ∧
      (∀ segment ∈ slashes, segment = "") ∧
      (path.segments.reverse.head? == some "") = !slashes.isEmpty := by
  have notEmpty : name ≠ "" := by
    rintro rfl
    have refused := List.head_dropWhile_not (· == "")
      (show path.segments.reverse.dropWhile (· == "") ≠ [] by
        rw [reversed]
        exact List.cons_ne_nil "" outer)
    simp [reversed] at refused
  have split :
      path.segments.reverse =
        path.segments.reverse.takeWhile (· == "") ++ name :: outer := by
    rw [← reversed]
    exact List.takeWhile_append_dropWhile.symm
  have empty : ∀ segment ∈ path.segments.reverse.takeWhile (· == ""),
      segment = "" := by
    intro segment member
    simpa using List.mem_takeWhile_imp member
  generalize path.segments.reverse.takeWhile (· == "") = slashes at split empty
  have parts : path.segments = outer.reverse ++ name :: slashes.reverse := by
    rw [← List.reverse_reverse path.segments, split]
    simp
  refine ⟨slashes.reverse, ⟨parts, by simp [Path.isVoid, notEmpty, notDot], ?_⟩,
    ?_, ?_⟩
  · intro segment member
    simp [Path.isVoid, empty segment (List.mem_reverse.1 member)]
  · intro segment member
    exact empty segment (List.mem_reverse.1 member)
  · rw [split]
    cases slashes with
    | nil => simp [notEmpty]
    | cons slash slashes => simp [empty slash List.mem_cons_self]

theorem place_eq {path : Path} {outer slashes : List String} {name : String}
    (tree : FileTree) (text : checkText path = .ok ())
    (ends : path.EndsIn outer name slashes)
    (onlySlashes : ∀ segment ∈ slashes, segment = "") (notUp : name ≠ "..") :
    tree.place path = (do
      let directory ← tree.walk (tree.start path) outer
      let directory ← tree.follow directory ""
      if nameLimit < name.utf8ByteSize then .error .nameTooLong
      else .ok (.named directory name (!slashes.isEmpty))) := by
  have notVoid := ends.named
  simp only [Path.isVoid, Bool.or_eq_false_iff, beq_eq_false_iff_ne] at notVoid
  have skipped : ∀ segment ∈ slashes.reverse, (segment == "") = true := by
    intro segment member
    simp [onlySlashes segment (List.mem_reverse.1 member)]
  have split : path.segments.reverse = slashes.reverse ++ name :: outer.reverse := by
    rw [ends.segments]
    simp
  have reversed :
      path.segments.reverse.dropWhile (· == "") = name :: outer.reverse := by
    rw [split, List.dropWhile_append_of_pos skipped]
    simp [notVoid.1]
  have ending : (path.segments.reverse.head? == some "") = !slashes.isEmpty := by
    rw [split]
    rcases List.eq_nil_or_concat slashes with rfl | ⟨front, slash, rfl⟩
    · simp [notVoid.1]
    · simp [onlySlashes slash (by simp)]
  unfold FileTree.place
  simp only [text, reversed, notVoid.2, notUp, ending, List.reverse_reverse,
    decide_false, Bool.or_self, Bool.false_eq_true, if_false]
  rfl

theorem placed_of_place {tree : FileTree} {path : Path} {directory : Location}
    {name : String} {slash : Bool}
    (place : tree.place path = .ok (.named directory name slash)) :
    ∃ slashes, tree.Placed path directory name slashes ∧
      slash = !slashes.isEmpty := by
  cases text : checkText path with
  | error cause =>
      simp [FileTree.place, text, bind, Except.bind] at place
  | ok accepted =>
      cases reversed : path.segments.reverse.dropWhile (· == "") with
      | nil =>
          simp [FileTree.place, text, reversed, bind, Except.bind] at place
      | cons last outer =>
          by_cases step : last = "." ∨ last = ".."
          · cases resolved : tree.resolve path with
            | error cause =>
                simp [FileTree.place, text, reversed, step, resolved, bind,
                  Except.bind] at place
            | ok location =>
                simp [FileTree.place, text, reversed, step, resolved, bind,
                  Except.bind] at place
          · have notDot : last ≠ "." := fun dot => step (Or.inl dot)
            have notUp : last ≠ ".." := fun up => step (Or.inr up)
            rcases endsIn_of_reversed reversed notDot with
              ⟨slashes, ends, onlySlashes, -⟩
            rw [place_eq tree text ends onlySlashes notUp] at place
            cases walked : tree.walk (tree.start path) outer.reverse with
            | error cause => simp [walked, bind, Except.bind] at place
            | ok reached =>
                cases entered : tree.follow reached "" with
                | error cause =>
                    simp [walked, entered, bind, Except.bind] at place
                | ok again =>
                    have found := follow_eq_ok entered
                    rw [follow_void found (by decide)] at entered
                    cases entered
                    simp only [walked, follow_void found (show
                      Path.isVoid "" = true by decide), bind,
                      Except.bind] at place
                    split at place
                    · cases place
                    · rename_i short
                      cases place
                      exact ⟨slashes, ⟨text, ⟨outer.reverse, ends, walked⟩,
                        onlySlashes, notUp, by omega, found⟩, rfl⟩

theorem Placed.place {tree : FileTree} {path : Path} {directory : Location}
    {name : String} {slashes : List String}
    (placed : tree.Placed path directory name slashes) :
    tree.place path = .ok (.named directory name (!slashes.isEmpty)) := by
  rcases placed.ends with ⟨outer, ends, walked⟩
  rw [place_eq tree placed.text ends placed.slashes placed.notUp, walked]
  simp only [bind, Except.bind]
  rw [follow_void placed.directory (by decide)]
  simp only
  rw [if_neg (Nat.not_lt.2 placed.short)]

/-- A place stays where it is in a tree that has all directories. -/
theorem Placed.of_keepsDirectories {before after : FileTree} {path : Path}
    {directory : Location} {name : String} {slashes : List String}
    (placed : before.Placed path directory name slashes)
    (keeps : before.KeepsDirectories after)
    (home : after.workingDirectory = before.workingDirectory) :
    after.Placed path directory name slashes := by
  rcases placed.ends with ⟨outer, ends, walked⟩
  have kept := keeps directory placed.directory
  have same : after.start path = before.start path := by
    simp only [start, home]
  have again :=
    walk_of_keepsDirectories keeps walked (by rw [kept]; rfl)
  exact ⟨placed.text, ⟨outer, ends, by rw [same]; exact again⟩, placed.slashes,
    placed.notUp, placed.short, kept⟩

/-! ## Reading at a place -/

theorem openFile_eq_of_walk {tree : FileTree} {path : Path} {place : Location}
    {entry : Entry} (text : checkText path = .ok ())
    (walked : tree.walk (tree.start path) path.segments = .ok place)
    (found : tree.entry place = some entry) : tree.openFile path = .ok entry := by
  simp [openFile, resolve_eq, text, walked, found, bind, Except.bind]

theorem openFile_eq_ok_iff {tree : FileTree} {path : Path} {entry : Entry} :
    tree.openFile path = .ok entry ↔
      checkText path = .ok () ∧
        ∃ place, tree.walk (tree.start path) path.segments = .ok place ∧
          tree.entry place = some entry := by
  constructor
  · intro opened
    cases text : checkText path with
    | error cause =>
        simp [openFile, resolve_eq, text, Except.bind, bind] at opened
    | ok accepted =>
        cases walked : tree.walk (tree.start path) path.segments with
        | error cause =>
            simp [openFile, resolve_eq, text, walked, Except.bind, bind] at opened
        | ok place =>
            cases found : tree.entry place with
            | none =>
                simp [openFile, resolve_eq, text, walked, found, Except.bind,
                  bind] at opened
            | some there =>
                simp only [openFile, resolve_eq, text, walked, found,
                  Except.bind, bind] at opened
                cases opened
                exact ⟨rfl, place, rfl, found⟩
  · rintro ⟨text, place, walked, found⟩
    exact openFile_eq_of_walk text walked found

theorem isDirectory_iff {tree : FileTree} {path : Path} :
    tree.isDirectory path = true ↔ tree.openFile path = .ok .directory := by
  unfold isDirectory
  constructor
  · intro directory
    split at directory
    · assumption
    · cases directory
  · intro opened
    rw [opened]

theorem isDirectory_of_keepsDirectories {before after : FileTree} {path : Path}
    (keeps : before.KeepsDirectories after)
    (home : after.workingDirectory = before.workingDirectory)
    (there : before.isDirectory path = true) :
    after.isDirectory path = true := by
  rcases openFile_eq_ok_iff.1 (isDirectory_iff.1 there) with
    ⟨text, place, walked, found⟩
  have kept := keeps place found
  have start : after.start path = before.start path := by
    simp only [FileTree.start, home]
  refine isDirectory_iff.2 (openFile_eq_ok_iff.2 ⟨text, place, ?_, kept⟩)
  rw [start]
  apply walk_of_keepsDirectories keeps walked
  rw [kept]
  rfl

theorem Placed.openFile {tree : FileTree} {path : Path} {directory : Location}
    {name : String} (placed : tree.Placed path directory name [])
    {entry : Entry} (found : tree.entry (name :: directory) = some entry) :
    tree.openFile path = .ok entry := by
  rcases placed.ends with ⟨outer, ends, walked⟩
  have step : tree.follow directory name = .ok (name :: directory) := by
    rw [follow_name placed.directory ends.named placed.notUp,
      if_neg (Nat.not_lt.2 placed.short), found]
    rfl
  refine openFile_eq_of_walk placed.text ?_ found
  rw [ends.segments]
  refine walk_append_eq_ok_iff.2 ⟨directory, walked, ?_⟩
  exact walk_cons_eq_ok_iff.2 ⟨name :: directory, step, rfl⟩

theorem keepsDirectories_setEntry {tree : FileTree} {place : Location}
    (notDirectory : tree.entry place ≠ some .directory) (entry : Option Entry) :
    tree.KeepsDirectories (tree.setEntry place entry) := by
  intro location directory
  rw [entry_setEntry]
  split
  · rfl
  · split
    · rename_i same
      rw [same] at directory
      exact absurd directory notDirectory
    · exact directory

/-- Reading a path does not see another entry in the directory that its outer
segments lead to. -/
theorem openFile_setEntry {tree : FileTree} {path : Path}
    {outer voids : List String} {name other : String} {directory : Location}
    (ends : path.EndsIn outer name voids) (notUp : name ≠ "..")
    (walked : tree.walk (tree.start path) outer = .ok directory)
    (found : tree.entry directory = some .directory)
    (notDirectory : tree.entry (other :: directory) ≠ some .directory)
    (different : name ≠ other) (entry : Option Entry) :
    (tree.setEntry (other :: directory) entry).openFile path =
      tree.openFile path := by
  have keeps := keepsDirectories_setEntry notDirectory entry
  have kept := keeps directory found
  have same :
      (tree.setEntry (other :: directory) entry).entry (name :: directory) =
        tree.entry (name :: directory) := by
    rw [entry_setEntry, if_neg (List.cons_ne_nil name directory), if_neg]
    intro equal
    exact different (List.cons.inj equal).1
  have again :
      (tree.setEntry (other :: directory) entry).walk
        ((tree.setEntry (other :: directory) entry).start path) outer =
          .ok directory :=
    walk_of_keepsDirectories keeps walked (by rw [kept]; rfl)
  unfold FileTree.openFile
  rw [resolve_eq, resolve_eq, ends.segments, walk_append, walk_append, again,
    walked]
  simp only [Except.bind]
  rw [walk_cons, walk_cons, follow_name kept ends.named notUp,
    follow_name found ends.named notUp, same]
  cases checkText path with
  | error cause => rfl
  | ok accepted =>
      simp only
      by_cases long : nameLimit < name.utf8ByteSize
      · simp only [if_pos long, bind, Except.bind]
      · simp only [if_neg long]
        cases present : (tree.entry (name :: directory)).isSome with
        | false => simp only [bind, Except.bind, Bool.false_eq_true, if_false]
        | true =>
            simp only [if_true, bind, Except.bind]
            rw [walk_void_congr ends.void same]
            cases end' : tree.walk (name :: directory) voids with
            | error cause => rfl
            | ok place =>
                obtain rfl := eq_of_walk_void ends.void end'
                simp only [same]

/-! ## Writing at a place -/

theorem writeFile_eq_ok {tree after : FileTree} {path : Path}
    {bytes : List UInt8} (written : tree.writeFile path bytes = .ok after) :
    ∃ directory name, tree.Placed path directory name [] ∧
      tree.entry (name :: directory) ≠ some .directory ∧
      after = tree.setEntry (name :: directory) (some (.file bytes)) := by
  unfold writeFile at written
  cases found : tree.place path with
  | error cause => simp [found, bind, Except.bind] at written
  | ok place =>
      cases place with
      | nameless => simp [found, bind, Except.bind] at written
      | named directory name slash =>
          rcases placed_of_place found with ⟨slashes, placed, rfl⟩
          simp only [found, bind, Except.bind] at written
          split at written
          · cases written
          · rename_i notDirectory
            split at written
            · cases written
            · rename_i noSlash
              cases slashes with
              | cons slash slashes => simp at noSlash
              | nil =>
                  cases written
                  refine ⟨directory, name, placed, ?_, rfl⟩
                  intro directoryThere
                  exact notDirectory directoryThere

/-- What a successful renaming met and what it left. -/
theorem renameFile_eq_ok {tree after : FileTree} {source target : Path}
    (renamed : tree.renameFile source target = .ok after) :
    ∃ fromDirectory fromName toDirectory toName bytes,
      tree.Placed source fromDirectory fromName [] ∧
        tree.Placed target toDirectory toName [] ∧
        tree.entry (fromName :: fromDirectory) = some (.file bytes) ∧
        ((fromName :: fromDirectory = toName :: toDirectory ∧ after = tree) ∨
          (fromName :: fromDirectory ≠ toName :: toDirectory ∧
            tree.entry (toName :: toDirectory) ≠ some .directory ∧
            after =
              (tree.setEntry (toName :: toDirectory)
                (some (.file bytes))).setEntry (fromName :: fromDirectory)
                  none)) := by
  unfold renameFile at renamed
  cases fromFound : tree.place source with
  | error cause => simp [fromFound, bind, Except.bind] at renamed
  | ok fromPlace =>
      cases toFound : tree.place target with
      | error cause => simp [fromFound, toFound, bind, Except.bind] at renamed
      | ok toPlace =>
          simp only [fromFound, toFound, bind, Except.bind] at renamed
          split at renamed
          · rename_i fromDirectory fromName fromSlash toDirectory toName toSlash
            rcases placed_of_place fromFound with ⟨fromSlashes, fromPlaced, rfl⟩
            rcases placed_of_place toFound with ⟨toSlashes, toPlaced, rfl⟩
            split at renamed
            · cases renamed
            · cases renamed
            · rename_i bytes isFile
              split at renamed
              · cases renamed
              · rename_i noSlash
                simp only [Bool.or_eq_true, Bool.not_eq_true', not_or,
                  Bool.not_eq_false, List.isEmpty_iff] at noSlash
                rcases noSlash with ⟨rfl, rfl⟩
                refine ⟨fromDirectory, fromName, toDirectory, toName, bytes,
                  fromPlaced, toPlaced, isFile, ?_⟩
                split at renamed
                · rename_i same
                  cases renamed
                  exact Or.inl ⟨same, rfl⟩
                · rename_i different
                  split at renamed
                  · cases renamed
                  · rename_i notDirectory
                    cases renamed
                    exact Or.inr ⟨different, notDirectory, rfl⟩
          · cases renamed

/-- A file that was renamed is read at its new path. -/
theorem openFile_renameFile {tree after : FileTree} {source target : Path}
    (renamed : tree.renameFile source target = .ok after) :
    ∃ directory name bytes, tree.Placed source directory name [] ∧
      tree.entry (name :: directory) = some (.file bytes) ∧
      after.openFile target = .ok (.file bytes) := by
  rcases renameFile_eq_ok renamed with
    ⟨fromDirectory, fromName, toDirectory, toName, bytes, fromPlaced, toPlaced,
      isFile, outcome⟩
  refine ⟨fromDirectory, fromName, bytes, fromPlaced, isFile, ?_⟩
  rcases outcome with ⟨same, rfl⟩ | ⟨different, notDirectory, rfl⟩
  · rw [same] at isFile
    exact toPlaced.openFile isFile
  · have keepsTarget :=
      keepsDirectories_setEntry notDirectory (some (.file bytes))
    have notDirectory' :
        (tree.setEntry (toName :: toDirectory) (some (.file bytes))).entry
          (fromName :: fromDirectory) ≠ some .directory := by
      rw [entry_setEntry, if_neg (List.cons_ne_nil _ _), if_neg different, isFile]
      simp
    have keepsSource := keepsDirectories_setEntry notDirectory' none
    have placed :=
      (toPlaced.of_keepsDirectories keepsTarget rfl).of_keepsDirectories
        keepsSource rfl
    apply placed.openFile
    rw [entry_setEntry, if_neg (List.cons_ne_nil _ _), if_neg (Ne.symm different),
      entry_setEntry, if_neg (List.cons_ne_nil _ _), if_pos rfl]

end CgroupMeter.FileTree
