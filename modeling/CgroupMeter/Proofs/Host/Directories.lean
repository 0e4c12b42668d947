import CgroupMeter.Proofs.Host.Walk

/-!
# Making directories

Making a directory with the parents it lacks only adds directories, and only
on the way to the path.  Everything that was there can still be read, and a
path with no steps upwards leads to nothing new.

A second attempt finds the tree as the first one left it and changes nothing,
also where the first one got stuck half-way.
-/

namespace CgroupMeter.FileTree

/-- A tree has all entries of another one, and beyond them only directories at
allowed places. -/
structure AddsDirectories (allowed : Location → Prop)
    (before after : FileTree) : Prop where
  /-- Relative paths start at the same place. -/
  home : after.workingDirectory = before.workingDirectory
  /-- Every entry is as before, or is an added directory. -/
  entry : ∀ location,
    after.entry location = before.entry location ∨
      before.entry location = none ∧
        after.entry location = some .directory ∧ allowed location

namespace AddsDirectories

variable {allowed : Location → Prop} {before middle after : FileTree}

theorem refl (tree : FileTree) : AddsDirectories allowed tree tree :=
  ⟨rfl, fun _ => Or.inl rfl⟩

theorem trans (first : AddsDirectories allowed before middle)
    (second : AddsDirectories allowed middle after) :
    AddsDirectories allowed before after := by
  constructor
  · rw [second.home, first.home]
  · intro location
    rcases second.entry location with same | ⟨missing, directory, permitted⟩
    · rw [same]
      exact first.entry location
    · rcases first.entry location with same | ⟨missing', directory', permitted'⟩
      · rw [same] at missing
        exact Or.inr ⟨missing, directory, permitted⟩
      · rw [missing] at directory'
        cases directory'

theorem kept (adds : AddsDirectories allowed before after)
    {location : Location} {entry : Entry}
    (found : before.entry location = some entry) :
    after.entry location = some entry := by
  rcases adds.entry location with same | ⟨missing, -, -⟩
  · rw [same, found]
  · rw [missing] at found
    cases found

theorem keepsDirectories (adds : AddsDirectories allowed before after) :
    before.KeepsDirectories after :=
  fun _ directory => adds.kept directory

theorem start (adds : AddsDirectories allowed before after) (path : Path) :
    after.start path = before.start path := by
  simp only [FileTree.start, adds.home]

/-- What could be read before is still read. -/
theorem openFile (adds : AddsDirectories allowed before after) {path : Path}
    {entry : Entry} (opened : before.openFile path = .ok entry) :
    after.openFile path = .ok entry := by
  rcases openFile_eq_ok_iff.1 opened with ⟨text, place, walked, found⟩
  have foundAfter := adds.kept found
  have walkedAfter :=
    walk_of_keepsDirectories adds.keepsDirectories walked
      (by rw [foundAfter]; rfl)
  rw [← adds.start path] at walkedAfter
  exact openFile_eq_of_walk text walkedAfter foundAfter

end AddsDirectories

/-! ## One directory -/

theorem makeDirectory_eq_ok {tree after : FileTree} {path : Path}
    (made : tree.makeDirectory path = .ok after) :
    ∃ directory name slashes, tree.Placed path directory name slashes ∧
      tree.entry (name :: directory) = none ∧
      after = tree.setEntry (name :: directory) (some .directory) := by
  unfold makeDirectory at made
  cases found : tree.place path with
  | error cause => simp [found, bind, Except.bind] at made
  | ok place =>
      cases place with
      | nameless => simp [found, bind, Except.bind] at made
      | named directory name slash =>
          rcases placed_of_place found with ⟨slashes, placed, rfl⟩
          simp only [found, bind, Except.bind] at made
          split at made
          · cases made
          · rename_i missing
            cases made
            refine ⟨directory, name, slashes, placed, ?_, rfl⟩
            simpa using missing

theorem addsDirectories_makeDirectory {tree after : FileTree} {path : Path}
    {allowed : Location → Prop} (made : tree.makeDirectory path = .ok after)
    (permitted : ∀ directory name slashes,
      tree.Placed path directory name slashes → allowed (name :: directory)) :
    AddsDirectories allowed tree after := by
  rcases makeDirectory_eq_ok made with
    ⟨directory, name, slashes, placed, missing, rfl⟩
  constructor
  · rfl
  · intro location
    rw [entry_setEntry]
    split
    · rename_i root
      rw [root]
      exact Or.inl rfl
    · split
      · rename_i same
        rw [same]
        exact Or.inr ⟨missing, rfl, permitted directory name slashes placed⟩
      · exact Or.inl rfl

/-- A path that leads to a directory leads there through another one. -/
theorem placed_of_isDirectory {tree : FileTree} {path : Path}
    {outer slashes : List String} {name : String}
    (there : tree.isDirectory path = true)
    (ends : path.EndsIn outer name slashes)
    (onlySlashes : ∀ segment ∈ slashes, segment = "") (notUp : name ≠ "..") :
    ∃ directory, tree.Placed path directory name slashes ∧
      (tree.entry (name :: directory)).isSome = true := by
  rcases openFile_eq_ok_iff.1 (isDirectory_iff.1 there) with
    ⟨text, place, walked, -⟩
  rw [ends.segments] at walked
  rcases walk_append_eq_ok_iff.1 walked with ⟨directory, outerWalked, inner⟩
  rcases walk_cons_eq_ok_iff.1 inner with ⟨next, followed, -⟩
  have found := follow_eq_ok followed
  rw [follow_name found ends.named notUp] at followed
  split at followed
  · cases followed
  · rename_i short
    split at followed
    · rename_i present
      exact ⟨directory, ⟨text, ⟨outer, ends, outerWalked⟩, onlySlashes, notUp,
        by omega, found⟩, present⟩
    · cases followed

theorem makeDirectory_of_isDirectory {tree : FileTree} {path : Path}
    (there : tree.isDirectory path = true) :
    tree.makeDirectory path = .error .alreadyExists := by
  have opened := isDirectory_iff.1 there
  rcases openFile_eq_ok_iff.1 opened with ⟨text, place, walked, -⟩
  cases reversed : path.segments.reverse.dropWhile (· == "") with
  | nil =>
      simp [makeDirectory, FileTree.place, text, reversed, bind, Except.bind]
  | cons name outer =>
      by_cases step : name = "." ∨ name = ".."
      · have resolved : tree.resolve path = .ok place := by
          rw [resolve_eq, text]
          exact walked
        simp [makeDirectory, FileTree.place, text, reversed, step, resolved,
          bind, Except.bind]
      · have notDot : name ≠ "." := fun dot => step (Or.inl dot)
        have notUp : name ≠ ".." := fun up => step (Or.inr up)
        rcases endsIn_of_reversed reversed notDot with
          ⟨slashes, ends, onlySlashes, -⟩
        rcases placed_of_isDirectory there ends onlySlashes notUp with
          ⟨directory, placed, present⟩
        simp [makeDirectory, placed.place, present, bind, Except.bind]

theorem isDirectory_makeDirectory {tree after : FileTree} {path : Path}
    (made : tree.makeDirectory path = .ok after) :
    after.isDirectory path = true := by
  have adds : AddsDirectories (fun _ => True) tree after :=
    addsDirectories_makeDirectory made fun _ _ _ _ => trivial
  rcases makeDirectory_eq_ok made with
    ⟨directory, name, slashes, placed, missing, rfl⟩
  have placedAfter := placed.of_keepsDirectories adds.keepsDirectories rfl
  rcases placedAfter.ends with ⟨outer, ends, walked⟩
  have found :
      (tree.setEntry (name :: directory) (some .directory)).entry
        (name :: directory) = some .directory := by
    rw [entry_setEntry, if_neg (List.cons_ne_nil _ _), if_pos rfl]
  have step :
      (tree.setEntry (name :: directory) (some .directory)).follow directory
        name = .ok (name :: directory) := by
    rw [follow_name placedAfter.directory ends.named placedAfter.notUp,
      if_neg (Nat.not_lt.2 placedAfter.short), found]
    rfl
  rw [isDirectory_iff]
  refine openFile_eq_of_walk placedAfter.text ?_ found
  rw [ends.segments]
  refine walk_append_eq_ok_iff.2 ⟨directory, walked, ?_⟩
  exact walk_cons_eq_ok_iff.2 ⟨_, step, walk_void ends.void found⟩

/-! ## A directory with its parents -/

/-- The ways in which making the first directory of a list ends, each with the
tree after it and the result. -/
inductive ChainOutcome (tree : FileTree) (path : Path) (outer : List Path) :
    FileTree × Except OsError Unit → Prop where
  /-- The directory was made at once. -/
  | made (changed : FileTree) (first : tree.makeDirectory path = .ok changed) :
      ChainOutcome tree path outer (changed, .ok ())
  /-- Its parent could not be made. -/
  | stuck (changed : FileTree) (cause : OsError)
      (first : tree.makeDirectory path = .error .notFound)
      (parents : tree.makeChain outer = (changed, .error cause)) :
      ChainOutcome tree path outer (changed, .error cause)
  /-- It was made after its parent. -/
  | madeLater (changed final : FileTree)
      (first : tree.makeDirectory path = .error .notFound)
      (parents : tree.makeChain outer = (changed, .ok ()))
      (second : changed.makeDirectory path = .ok final) :
      ChainOutcome tree path outer (final, .ok ())
  /-- It could not be made although its parent is there. -/
  | refusedLater (changed : FileTree) (cause : OsError)
      (first : tree.makeDirectory path = .error .notFound)
      (parents : tree.makeChain outer = (changed, .ok ()))
      (second : changed.makeDirectory path = .error cause) :
      ChainOutcome tree path outer
        (changed, if changed.isDirectory path then .ok () else .error cause)
  /-- It could not be made, and not for want of a parent. -/
  | refused (cause : OsError) (other : cause ≠ .notFound)
      (first : tree.makeDirectory path = .error cause) :
      ChainOutcome tree path outer
        (tree, if tree.isDirectory path then .ok () else .error cause)

theorem makeChain_outcome (tree : FileTree) (path : Path) (outer : List Path) :
    ChainOutcome tree path outer (tree.makeChain (path :: outer)) := by
  cases first : tree.makeDirectory path with
  | ok changed =>
      rw [makeChain, first]
      exact .made changed first
  | error cause =>
      by_cases missing : cause = .notFound
      · subst missing
        rcases parents : tree.makeChain outer with ⟨changed, result⟩
        cases result with
        | error cause =>
            rw [makeChain, first]
            simp only [parents]
            exact .stuck changed cause first parents
        | ok made =>
            cases second : changed.makeDirectory path with
            | ok final =>
                rw [makeChain, first]
                simp only [parents, second]
                exact .madeLater changed final first parents second
            | error cause =>
                rw [makeChain, first]
                simp only [parents, second]
                exact .refusedLater changed cause first parents second
      · have unfolded :
            tree.makeChain (path :: outer) =
              (tree, if tree.isDirectory path then .ok () else .error cause) := by
          rw [makeChain, first]
          cases cause <;> first
            | rfl
            | exact absurd rfl missing
        rw [unfolded]
        exact .refused cause missing first

/-- Making directories one inside the other only adds directories. -/
theorem addsDirectories_makeChain {tree : FileTree} {chain : List Path}
    {allowed : Location → Prop}
    (permitted : ∀ path ∈ chain, ∀ other : FileTree,
      other.workingDirectory = tree.workingDirectory →
        ∀ directory name slashes, other.Placed path directory name slashes →
          allowed (name :: directory)) :
    AddsDirectories allowed tree (tree.makeChain chain).1 := by
  induction chain with
  | nil => exact AddsDirectories.refl tree
  | cons path outer ih =>
      have parents :=
        ih fun other member => permitted other (List.mem_cons_of_mem path member)
      have own := permitted path List.mem_cons_self
      have outcome := makeChain_outcome tree path outer
      generalize tree.makeChain (path :: outer) = result at outcome ⊢
      cases outcome with
      | made changed first =>
          exact addsDirectories_makeDirectory first (own tree rfl)
      | stuck changed cause first made =>
          rw [made] at parents
          exact parents
      | madeLater changed final first made second =>
          rw [made] at parents
          exact parents.trans
            (addsDirectories_makeDirectory second (own changed parents.home))
      | refusedLater changed cause first made second =>
          rw [made] at parents
          exact parents
      | refused cause other first => exact AddsDirectories.refl tree

theorem makeChain_of_isDirectory {tree : FileTree} {path : Path}
    (outer : List Path) (there : tree.isDirectory path = true) :
    tree.makeChain (path :: outer) = (tree, .ok ()) := by
  rw [makeChain, makeDirectory_of_isDirectory there]
  simp [there]

theorem isDirectory_makeChain {tree : FileTree} {path : Path}
    {outer : List Path}
    (made : (tree.makeChain (path :: outer)).2 = .ok ()) :
    (tree.makeChain (path :: outer)).1.isDirectory path = true := by
  have outcome := makeChain_outcome tree path outer
  generalize tree.makeChain (path :: outer) = result at made outcome ⊢
  cases outcome with
  | made changed first => exact isDirectory_makeDirectory first
  | stuck changed cause first parents => cases made
  | madeLater changed final first parents second =>
      exact isDirectory_makeDirectory second
  | refusedLater changed cause first parents second =>
      by_cases there : changed.isDirectory path = true
      · exact there
      · simp [there] at made
  | refused cause other first =>
      by_cases there : tree.isDirectory path = true
      · exact there
      · simp [there] at made

/-! ## Parents -/

theorem checkText_of_isPrefix {path parent : Path}
    (text : checkText path = .ok ())
    (begins : parent.text.toList <+: path.text.toList)
    (filled : parent.text ≠ "") : checkText parent = .ok () := by
  unfold checkText at text
  split at text
  · cases text
  · rename_i noNul
    split at text
    · cases text
    · split at text
      · cases text
      · rename_i short
        rcases begins with ⟨rest, whole⟩
        have parts : path.text = parent.text ++ String.ofList rest := by
          rw [← String.toList_inj, ← whole]
          simp
        have noNulBefore : '\x00' ∉ parent.text.toList := by
          intro member
          apply noNul
          rw [← whole]
          exact List.mem_append_left rest member
        have shorter : ¬ pathLimit ≤ parent.text.utf8ByteSize := by
          rw [parts, String.utf8ByteSize_append] at short
          omega
        simp [checkText, noNulBefore, filled, shorter]

/-- The parent of a path leads to the directory where the kept segments do. -/
theorem isDirectory_of_keepsParent {tree : FileTree} {path parent : Path}
    {kept dropped : List String} {directory : Location}
    (text : checkText path = .ok ())
    (keeps : path.KeepsParent parent kept dropped) (filled : parent.text ≠ "")
    (walked : tree.walk (tree.start path) kept = .ok directory)
    (found : tree.entry directory = some .directory) :
    tree.isDirectory parent = true := by
  have same : tree.start parent = tree.start path := by
    simp only [start, keeps.isAbsolute filled]
  rw [isDirectory_iff]
  refine openFile_eq_of_walk
    (checkText_of_isPrefix text keeps.isPrefix filled) ?_ found
  rw [same]
  rcases keeps.parent with parts | parts
  · rw [parts]
    exact walked
  · rw [parts]
    refine walk_append_eq_ok_iff.2 ⟨directory, walked, ?_⟩
    exact walk_void (by simp [Path.isVoid]) found

/-- A path with a parent that is written ends in a name. -/
theorem exists_endsIn_of_parent {path parent : Path}
    (found : path.parent = some parent) (filled : parent.text ≠ "") :
    ∃ outer name voids, path.EndsIn outer name voids := by
  cases last : path.layout.named.getLast? with
  | none =>
      have nameless : path.layout.named = [] := by simpa using last
      exact absurd (Path.parent_of_nameless nameless found) filled
  | some name =>
      rcases Path.exists_endsIn last with ⟨outer, voids, ends⟩
      exact ⟨outer, name, voids, ends⟩

theorem isDirectory_parent {tree : FileTree} {path parent : Path}
    (found : path.parent = some parent) (filled : parent.text ≠ "")
    (there : tree.isDirectory path = true) :
    tree.isDirectory parent = true := by
  rcases exists_endsIn_of_parent found filled with ⟨outer, name, voids, ends⟩
  rcases ends.parent found with ⟨kept, between, -, -, keeps⟩
  rcases openFile_eq_ok_iff.1 (isDirectory_iff.1 there) with
    ⟨text, place, walked, -⟩
  rw [keeps.segments] at walked
  rcases walk_append_eq_ok_iff.1 walked with ⟨directory, keptWalked, others⟩
  rcases List.exists_cons_of_ne_nil keeps.dropped with ⟨first, rest, shape⟩
  rw [shape] at others
  rcases walk_cons_eq_ok_iff.1 others with ⟨next, followed, -⟩
  exact isDirectory_of_keepsParent text keeps filled keptWalked
    (follow_eq_ok followed)

/-- A directory is made in a directory. -/
theorem isDirectory_parent_of_makeDirectory {tree after : FileTree}
    {path parent : Path} (found : path.parent = some parent)
    (filled : parent.text ≠ "") (made : tree.makeDirectory path = .ok after) :
    tree.isDirectory parent = true := by
  rcases makeDirectory_eq_ok made with ⟨directory, name, slashes, placed, -, -⟩
  rcases placed.ends with ⟨outer, ends, walked⟩
  rcases ends.parent found with ⟨kept, between, rfl, void, keeps⟩
  rcases walk_append_eq_ok_iff.1 walked with ⟨reached, keptWalked, others⟩
  obtain rfl := eq_of_walk_void void others
  exact isDirectory_of_keepsParent placed.text keeps filled keptWalked
    placed.directory

/-- The parents of a path that lead to it. -/
def parentChain (path : Path) (depth : Nat) : List Path :=
  match path.parent with
  | none => []
  | some parent => parent.ancestorsUpTo depth

theorem ancestorsUpTo_succ {path : Path} (filled : path.text ≠ "")
    (depth : Nat) :
    path.ancestorsUpTo (depth + 1) = path :: parentChain path depth := by
  rw [Path.ancestorsUpTo, if_neg filled]
  rfl

/-- The parents of a path are none, or those of a parent that is written. -/
theorem parentChain_cases (path : Path) (depth : Nat) :
    parentChain path depth = [] ∨
      ∃ parent, path.parent = some parent ∧ parent.text ≠ "" ∧
        parentChain path depth = parent.ancestorsUpTo depth := by
  unfold parentChain
  cases found : path.parent with
  | none => exact Or.inl rfl
  | some parent =>
      by_cases empty : parent.text = ""
      · left
        cases depth with
        | zero => rfl
        | succ depth => simp [Path.ancestorsUpTo, empty]
      · exact Or.inr ⟨parent, rfl, empty, rfl⟩

/-- A path whose directories could not all be made leads to no directory. -/
theorem not_isDirectory_of_makeChain_error {tree : FileTree} {depth : Nat}
    {path : Path} {cause : OsError}
    (failed : (tree.makeChain (path.ancestorsUpTo depth)).2 = .error cause) :
    (tree.makeChain (path.ancestorsUpTo depth)).1.isDirectory path = false := by
  induction depth generalizing path cause with
  | zero => cases failed
  | succ depth ih =>
      by_cases empty : path.text = ""
      · simp [Path.ancestorsUpTo, empty, makeChain] at failed
      · rw [ancestorsUpTo_succ empty] at failed ⊢
        have outcome := makeChain_outcome tree path (parentChain path depth)
        generalize tree.makeChain (path :: parentChain path depth) = result
          at failed outcome ⊢
        cases outcome with
        | made changed first => cases failed
        | madeLater changed final first parents second => cases failed
        | refusedLater changed cause first parents second =>
            by_cases there : changed.isDirectory path = true
            · simp [there] at failed
            · simpa using there
        | refused cause other first =>
            by_cases there : tree.isDirectory path = true
            · simp [there] at failed
            · simpa using there
        | stuck changed cause first parents =>
            rcases parentChain_cases path depth with
              none | ⟨parent, above, filled, chain⟩
            · rw [none] at parents
              cases parents
            · rw [chain] at parents
              have missing := @ih parent cause (by rw [parents])
              rw [parents] at missing
              rw [← Bool.not_eq_true]
              intro there
              rw [isDirectory_parent above filled there] at missing
              cases missing

/-- An attempt changes nothing where the parents are as far made as they can
be and the directory itself cannot be made. -/
theorem makeChain_of_refused {tree : FileTree} {path : Path}
    {outer : List Path} (parents : (tree.makeChain outer).1 = tree)
    (refused : ∀ changed, tree.makeDirectory path ≠ .ok changed) :
    (tree.makeChain (path :: outer)).1 = tree := by
  have outcome := makeChain_outcome tree path outer
  generalize tree.makeChain (path :: outer) = result at outcome ⊢
  cases outcome with
  | made changed first => exact absurd first (refused changed)
  | stuck changed cause first made =>
      rw [made] at parents
      exact parents
  | madeLater changed final first made second =>
      rw [made] at parents
      subst parents
      exact absurd second (refused final)
  | refusedLater changed cause first made second =>
      rw [made] at parents
      exact parents
  | refused cause other first => rfl

theorem makeChain_idempotent (tree : FileTree) (depth : Nat) (path : Path) :
    ((tree.makeChain (path.ancestorsUpTo depth)).1.makeChain
      (path.ancestorsUpTo depth)).1 =
        (tree.makeChain (path.ancestorsUpTo depth)).1 := by
  induction depth generalizing path with
  | zero => rfl
  | succ depth ih =>
      by_cases empty : path.text = ""
      · simp [Path.ancestorsUpTo, empty, makeChain]
      · rw [ancestorsUpTo_succ empty]
        have parentsAgain :
            ((tree.makeChain (parentChain path depth)).1.makeChain
              (parentChain path depth)).1 =
                (tree.makeChain (parentChain path depth)).1 := by
          rcases parentChain_cases path depth with
            none | ⟨parent, above, filled, chain⟩
          · rw [none]
            rfl
          · rw [chain]
            exact ih parent
        have arrived (there : (tree.makeChain
            (path :: parentChain path depth)).1.isDirectory path = true) :
            ((tree.makeChain (path :: parentChain path depth)).1.makeChain
              (path :: parentChain path depth)).1 =
                (tree.makeChain (path :: parentChain path depth)).1 := by
          rw [makeChain_of_isDirectory (parentChain path depth) there]
        have outcome := makeChain_outcome tree path (parentChain path depth)
        rcases attempt : tree.makeChain (path :: parentChain path depth) with
          ⟨reached, result⟩
        rw [attempt] at outcome arrived
        cases outcome with
        | made changed first => exact arrived (isDirectory_makeDirectory first)
        | madeLater changed final first parents second =>
            exact arrived (isDirectory_makeDirectory second)
        | stuck changed cause first parents =>
            rw [parents] at parentsAgain
            apply makeChain_of_refused parentsAgain
            intro final made
            rcases parentChain_cases path depth with
              none | ⟨parent, above, filled, chain⟩
            · rw [none] at parents
              cases parents
            · rw [chain] at parents
              have missing :=
                @not_isDirectory_of_makeChain_error tree depth parent cause
                  (by rw [parents])
              rw [parents, isDirectory_parent_of_makeDirectory above filled made]
                at missing
              cases missing
        | refusedLater changed cause first parents second =>
            rw [parents] at parentsAgain
            apply makeChain_of_refused parentsAgain
            intro final made
            rw [second] at made
            cases made
        | refused cause other first => rw [attempt]

/-! ## Paths without steps upwards -/

/-- A tree without gaps: every entry stands in a directory. -/
def Grounded (tree : FileTree) : Prop :=
  ∀ name location, (tree.entry (name :: location)).isSome = true →
    tree.entry location = some .directory

/-- A path without steps upwards and without names that are too long. -/
def PlainPath (path : Path) : Prop :=
  ∀ segment ∈ path.segments,
    segment ≠ ".." ∧ segment.utf8ByteSize ≤ nameLimit

/-- Without steps upwards, a walk ends below where it started. -/
theorem walk_eq_names {tree : FileTree} {location place : Location}
    {segments : List String} (noUp : ".." ∉ segments)
    (walked : tree.walk location segments = .ok place) :
    place =
      (segments.filter fun segment => !Path.isVoid segment).reverse ++
        location := by
  induction segments generalizing location with
  | nil => exact (Except.ok.inj walked).symm
  | cons segment rest ih =>
      rcases walk_cons_eq_ok_iff.1 walked with ⟨next, followed, others⟩
      simp only [List.mem_cons, not_or] at noUp
      have found := follow_eq_ok followed
      have below := ih noUp.2 others
      by_cases void : Path.isVoid segment = true
      · rw [follow_void found void] at followed
        cases followed
        simp [below, void]
      · have named : Path.isVoid segment = false := by simpa using void
        rw [follow_name found named (Ne.symm noUp.1)] at followed
        split at followed
        · cases followed
        · split at followed
          · cases followed
            simp [below, named]
          · cases followed

/-- The entry that segments lead to from a location. -/
def openAt (tree : FileTree) (location : Location) (segments : List String) :
    Except OsError Entry :=
  (tree.walk location segments).bind fun place =>
    match tree.entry place with
    | none => .error .notFound
    | some entry => .ok entry

theorem openFile_eq_openAt (tree : FileTree) (path : Path) :
    tree.openFile path =
      (checkText path).bind fun _ =>
        tree.openAt (tree.start path) path.segments := by
  unfold openFile
  rw [resolve_eq]
  cases checkText path with
  | error cause => rfl
  | ok accepted => rfl

theorem openAt_cons (tree : FileTree) (location : Location) (segment : String)
    (rest : List String) :
    tree.openAt location (segment :: rest) =
      (tree.follow location segment).bind fun next =>
        tree.openAt next rest := by
  unfold openAt
  rw [walk_cons]
  cases tree.follow location segment with
  | error cause => rfl
  | ok next => rfl

section Plain

variable {allowed : Location → Prop} {before after : FileTree}
    (adds : AddsDirectories allowed before after) (grounded : before.Grounded)
    {segments : List String}
    (plain : ∀ segment ∈ segments,
      segment ≠ ".." ∧ segment.utf8ByteSize ≤ nameLimit)

include adds grounded plain

/-- Where there was nothing, plain segments lead to nothing, unless their end
was added. -/
theorem openAt_of_missing {location : Location}
    (missing : before.entry location = none)
    (untouched : ¬ allowed
      ((segments.filter fun segment => !Path.isVoid segment).reverse ++
        location)) :
    after.openAt location segments = .error .notFound := by
  induction segments generalizing location with
  | nil =>
      have same : after.entry location = none := by
        rcases adds.entry location with same | ⟨-, -, permitted⟩
        · rw [same, missing]
        · exact absurd permitted untouched
      simp [openAt, walk_nil, same, Except.bind]
  | cons segment rest ih =>
      have plainRest : ∀ other ∈ rest,
          other ≠ ".." ∧ other.utf8ByteSize ≤ nameLimit :=
        fun other member => plain other (List.mem_cons_of_mem segment member)
      rcases plain segment List.mem_cons_self with ⟨notUp, short⟩
      rw [openAt_cons]
      rcases adds.entry location with same | ⟨-, directory, -⟩
      · simp [follow, same, missing, Except.bind]
      · by_cases void : Path.isVoid segment = true
        · rw [follow_void directory void]
          apply ih plainRest missing
          simpa [void] using untouched
        · have named : Path.isVoid segment = false := by simpa using void
          have missingBelow : before.entry (segment :: location) = none := by
            cases below : before.entry (segment :: location) with
            | none => rfl
            | some entry =>
                have above := grounded segment location (by rw [below]; rfl)
                rw [missing] at above
                cases above
          rw [follow_name directory named notUp, if_neg (Nat.not_lt.2 short)]
          split
          · apply ih plainRest missingBelow
            simpa [named] using untouched
          · rfl

/-- Plain segments lead to what they led to, unless their end was added. -/
theorem openAt_of_addsDirectories {location : Location}
    (untouched : ¬ allowed
      ((segments.filter fun segment => !Path.isVoid segment).reverse ++
        location)) :
    after.openAt location segments = before.openAt location segments := by
  induction segments generalizing location with
  | nil =>
      have same : after.entry location = before.entry location := by
        rcases adds.entry location with same | ⟨-, -, permitted⟩
        · exact same
        · exact absurd permitted untouched
      simp [openAt, walk_nil, same, Except.bind]
  | cons segment rest ih =>
      have plainRest : ∀ other ∈ rest,
          other ≠ ".." ∧ other.utf8ByteSize ≤ nameLimit :=
        fun other member => plain other (List.mem_cons_of_mem segment member)
      rcases plain segment List.mem_cons_self with ⟨notUp, short⟩
      cases found : before.entry location with
      | none =>
          rw [openAt_of_missing adds grounded plain found untouched,
            openAt_cons]
          simp [follow, found, Except.bind]
      | some entry =>
          have foundAfter := adds.kept found
          rw [openAt_cons, openAt_cons]
          cases entry with
          | file bytes => simp [follow, found, foundAfter, Except.bind]
          | directory =>
              by_cases void : Path.isVoid segment = true
              · rw [follow_void found void, follow_void foundAfter void]
                apply ih plainRest
                simpa [void] using untouched
              · have named : Path.isVoid segment = false := by simpa using void
                have untouchedRest : ¬ allowed
                    ((rest.filter fun segment => !Path.isVoid segment).reverse ++
                      (segment :: location)) := by
                  simpa [named] using untouched
                rw [follow_name found named notUp,
                  follow_name foundAfter named notUp,
                  if_neg (Nat.not_lt.2 short), if_neg (Nat.not_lt.2 short)]
                cases below : before.entry (segment :: location) with
                | some entry =>
                    rw [adds.kept below]
                    exact ih plainRest untouchedRest
                | none =>
                    have none :=
                      openAt_of_missing adds grounded plainRest below
                        untouchedRest
                    by_cases present :
                        (after.entry (segment :: location)).isSome = true
                    · simp only [present, if_true, Except.bind, none]
                      simp
                    · simp [present, Except.bind]

end Plain

/-- The ancestors of a path start where it does and have no other names. -/
theorem names_prefix_of_mem_ancestors {depth : Nat} {path ancestor : Path}
    (member : ancestor ∈ path.ancestorsUpTo depth) :
    ancestor.names <+: path.names ∧ ancestor.isAbsolute = path.isAbsolute := by
  induction depth generalizing path with
  | zero => cases member
  | succ depth ih =>
      by_cases empty : path.text = ""
      · simp [Path.ancestorsUpTo, empty] at member
      · rw [ancestorsUpTo_succ empty] at member
        rcases List.mem_cons.1 member with rfl | above
        · exact ⟨List.prefix_rfl, rfl⟩
        · rcases parentChain_cases path depth with
            none | ⟨parent, found, filled, chain⟩
          · rw [none] at above
            cases above
          · rw [chain] at above
            rcases ih above with ⟨begins, sameStart⟩
            rcases exists_endsIn_of_parent found filled with
              ⟨outer, name, voids, ends⟩
            rcases ends.parent found with ⟨kept, between, -, -, keeps⟩
            rw [ends.parent_names found]
            refine ⟨begins.trans (List.prefix_append _ _), ?_⟩
            rw [sameStart, keeps.isAbsolute filled]

theorem mem_names_iff {path : Path} {name : String}
    (named : Path.isVoid name = false) :
    name ∈ path.names ↔ name ∈ path.segments := by
  simp [Path.names, named]

/-- The place of a path without steps upwards is as deep as it has names. -/
theorem Placed.length_eq {tree : FileTree} {path : Path}
    {directory : Location} {name : String} {slashes : List String}
    (placed : tree.Placed path directory name slashes)
    (noUp : ".." ∉ path.names) :
    (name :: directory).length =
      path.names.length + (tree.start path).length := by
  rcases placed.ends with ⟨outer, ends, walked⟩
  have noUpOuter : ".." ∉ outer := by
    intro member
    refine noUp ((mem_names_iff (by decide)).2 ?_)
    rw [ends.segments]
    simp [member]
  have depth := congrArg List.length (walk_eq_names noUpOuter walked)
  simp only [List.length_append, List.length_reverse] at depth
  rw [ends.names, List.length_cons, List.length_append, depth,
    List.length_singleton]
  omega

/-- Making the directory of a plain path does not change what the path leads
to. -/
theorem openFile_makeDirectories {tree : FileTree} {path parent : Path}
    (grounded : tree.Grounded) (plain : PlainPath path)
    (found : path.parent = some parent) :
    (tree.makeDirectories parent).1.openFile path = tree.openFile path := by
  by_cases empty : parent.text = ""
  · simp [makeDirectories, Path.ancestors, Path.ancestorsUpTo, empty, makeChain]
  · rcases exists_endsIn_of_parent found empty with ⟨outer, name, voids, ends⟩
    rcases ends.parent found with ⟨kept, between, -, -, keeps⟩
    have names := ends.parent_names found
    have noUp : ".." ∉ path.names := by
      intro member
      have listed := (mem_names_iff (by decide)).1 member
      exact (plain ".." listed).1 rfl
    let allowed : Location → Prop := fun location =>
      location.length < (path.names.reverse ++ tree.start path).length
    have adds :
        AddsDirectories allowed tree (tree.makeDirectories parent).1 := by
      apply addsDirectories_makeChain
      intro ancestor member other home directory last slashes placed
      rcases names_prefix_of_mem_ancestors member with ⟨begins, sameStart⟩
      have noUpAbove : ".." ∉ ancestor.names := by
        intro up
        apply noUp
        rw [names]
        exact List.mem_append_left _ (begins.subset up)
      have start : other.start ancestor = tree.start path := by
        simp only [FileTree.start, home, sameStart, keeps.isAbsolute empty]
      have shorter := begins.length_le
      show (last :: directory).length < (path.names.reverse ++ tree.start path).length
      rw [placed.length_eq noUpAbove, start, List.length_append,
        List.length_reverse, names, List.length_append, List.length_singleton]
      omega
    have same :=
      openAt_of_addsDirectories adds grounded plain
        (show ¬ allowed (path.names.reverse ++ tree.start path) from
          Nat.lt_irrefl _)
    rw [openFile_eq_openAt, openFile_eq_openAt, adds.start path, same]

/-- What is there stays readable when directories are made. -/
theorem openFile_makeDirectories_of_ok {tree : FileTree} {path : Path}
    {entry : Entry} (directory : Path) (opened : tree.openFile path = .ok entry) :
    (tree.makeDirectories directory).1.openFile path = .ok entry := by
  have adds : AddsDirectories (fun _ => True) tree
      (tree.makeDirectories directory).1 :=
    addsDirectories_makeChain fun _ _ _ _ _ _ _ _ => trivial
  exact adds.openFile opened

end CgroupMeter.FileTree
