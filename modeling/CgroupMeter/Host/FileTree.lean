import CgroupMeter.Host.Error
import CgroupMeter.Text.Lines

/-!
# A tree of files

The files of a host as a value: which entry stands at which location, and the
directory where relative paths start.  A path is followed segment by segment,
and each segment must be followed from a directory, so `..`, `.`, repeated and
trailing slashes have the meaning that the operating system gives them.

A tree has no links between entries and no permissions, and its disk neither
fills up nor fails: an operation is refused for its path and for the entries
along it, and for nothing else.

The operations that change a tree are those of a program that replaces one
file: making directories, writing a file anew, and renaming it.
-/

namespace CgroupMeter

/-- What stands at a location of a tree. -/
inductive Entry where
  /-- A directory. -/
  | directory
  /-- A file with its bytes. -/
  | file (bytes : List UInt8)
  deriving DecidableEq

/-- A place in a tree: the names that lead to it from the root, innermost
first. -/
abbrev Location := List String

/-- The files of a host, with what else a program can see of it. -/
structure FileTree where
  entryAt : Location → Option Entry
  workingDirectory : Location
  /-- The CPUs that programs may run on, at least one. -/
  visibleCpus : UInt32

namespace FileTree

/-- The longest name of an entry, in bytes. -/
def nameLimit : Nat := 255

/-- A path of this many bytes is too long. -/
def pathLimit : Nat := 4096

/-- The tree with nothing in it but the directories that lead to the working
directory, of a host where programs see one CPU. -/
def empty (workingDirectory : Location) : FileTree where
  entryAt location :=
    if location.isSuffixOf workingDirectory then some .directory else none
  workingDirectory := workingDirectory
  visibleCpus := 1

/-- The entry at a location.  The root is a directory. -/
def entry (tree : FileTree) (location : Location) : Option Entry :=
  if location = [] then some .directory else tree.entryAt location

/-- The tree with another entry at one location. -/
def setEntry (tree : FileTree) (location : Location) (entry : Option Entry) :
    FileTree :=
  { tree with
    entryAt := fun other =>
      if other = location then entry else tree.entryAt other }

@[simp]
theorem entry_root (tree : FileTree) : tree.entry [] = some .directory := rfl

@[simp]
theorem entry_setEntry (tree : FileTree) (location other : Location)
    (written : Option Entry) :
    (tree.setEntry location written).entry other =
      if other = [] then some .directory
      else if other = location then written
      else tree.entry other := by
  by_cases root : other = []
  · simp [root]
  · simp [entry, setEntry, root]

/-! ## Following a path -/

/-- Follow one segment of a path from a location. -/
def follow (tree : FileTree) (location : Location) (segment : String) :
    Except OsError Location :=
  match tree.entry location with
  | none => .error .notFound
  | some (.file _) => .error .notADirectory
  | some .directory =>
      if Path.isVoid segment then .ok location
      else if segment = ".." then .ok location.tail
      else if nameLimit < segment.utf8ByteSize then .error .nameTooLong
      else if (tree.entry (segment :: location)).isSome then
        .ok (segment :: location)
      else .error .notFound

/-- Where following a path starts. -/
def start (tree : FileTree) (path : Path) : Location :=
  if path.isAbsolute then [] else tree.workingDirectory

/-- The path texts that the operating system looks at all. -/
def checkText (path : Path) : Except OsError Unit :=
  if '\x00' ∈ path.text.toList then .error .nulInPath
  else if path.text = "" then .error .notFound
  else if pathLimit ≤ path.text.utf8ByteSize then .error .nameTooLong
  else .ok ()

/-- The location of an existing entry. -/
def resolve (tree : FileTree) (path : Path) : Except OsError Location := do
  checkText path
  path.segments.foldlM tree.follow (tree.start path)

/-- The entry that a path leads to, when it is opened for reading. -/
def openFile (tree : FileTree) (path : Path) : Except OsError Entry := do
  let location ← tree.resolve path
  match tree.entry location with
  | none => .error .notFound
  | some entry => .ok entry

/-- The path leads to a directory. -/
def isDirectory (tree : FileTree) (path : Path) : Bool :=
  tree.openFile path matches .ok .directory

/-! ## Changing a tree -/

/-- Where a path puts an entry that may not exist yet. -/
inductive Place where
  /-- The path ends in no name of its own: it is the root, `.` or `..`. -/
  | nameless
  /-- The path ends in a name in a directory, perhaps with a slash after it. -/
  | named (directory : Location) (name : String) (slash : Bool)

/-- Find the place of an entry: all of its path but the last name has to
exist. -/
def place (tree : FileTree) (path : Path) : Except OsError Place := do
  checkText path
  let reversed := path.segments.reverse
  match reversed.dropWhile (· == "") with
  | [] => .ok .nameless
  | name :: outer =>
      if name = "." || name = ".." then
        let _ ← tree.resolve path
        .ok .nameless
      else
        let directory ← outer.reverse.foldlM tree.follow (tree.start path)
        let directory ← tree.follow directory ""
        if nameLimit < name.utf8ByteSize then .error .nameTooLong
        else .ok (.named directory name (reversed.head? == some ""))

/-- Write a file anew, in a directory that exists. -/
def writeFile (tree : FileTree) (path : Path) (bytes : List UInt8) :
    Except OsError FileTree := do
  match ← tree.place path with
  | .nameless => .error .isADirectory
  | .named directory name slash =>
      match tree.entry (name :: directory) with
      | some .directory => .error .isADirectory
      | _ =>
          if slash then .error .isADirectory
          else .ok (tree.setEntry (name :: directory) (some (.file bytes)))

/-- Make one directory. -/
def makeDirectory (tree : FileTree) (path : Path) : Except OsError FileTree := do
  match ← tree.place path with
  | .nameless => .error .alreadyExists
  | .named directory name _ =>
      if (tree.entry (name :: directory)).isSome then .error .alreadyExists
      else .ok (tree.setEntry (name :: directory) (some .directory))

/-- Make the first directory of a list, whose members are each the parent of
the one before.  When its parent is missing, the parents are made first; when
it is there already, nothing is left to do. -/
def makeChain (tree : FileTree) :
    List Path → FileTree × Except OsError Unit
  | [] => (tree, .ok ())
  | path :: outer =>
      match tree.makeDirectory path with
      | .ok changed => (changed, .ok ())
      | .error .notFound =>
          match makeChain tree outer with
          | (changed, .error cause) => (changed, .error cause)
          | (changed, .ok ()) =>
              match changed.makeDirectory path with
              | .ok final => (final, .ok ())
              | .error cause =>
                  (changed,
                    if changed.isDirectory path then .ok () else .error cause)
      | .error cause =>
          (tree, if tree.isDirectory path then .ok () else .error cause)

/-- Make a directory and the parents it lacks. -/
def makeDirectories (tree : FileTree) (path : Path) :
    FileTree × Except OsError Unit :=
  tree.makeChain path.ancestors

/-- Give a file another path, in place of the file that may be there. -/
def renameFile (tree : FileTree) (source target : Path) :
    Except OsError FileTree := do
  let sourcePlace ← tree.place source
  let targetPlace ← tree.place target
  match sourcePlace, targetPlace with
  | .named sourceDirectory sourceName sourceSlash,
      .named targetDirectory targetName targetSlash =>
      let sourceLocation := sourceName :: sourceDirectory
      let targetLocation := targetName :: targetDirectory
      match tree.entry sourceLocation with
      | none => .error .notFound
      | some .directory => .error .isADirectory
      | some (.file bytes) =>
          if sourceSlash || targetSlash then .error .notADirectory
          else if sourceLocation = targetLocation then .ok tree
          else if tree.entry targetLocation = some .directory then
            .error .isADirectory
          else
            .ok ((tree.setEntry targetLocation (some (.file bytes))).setEntry
              sourceLocation none)
  | _, _ => .error .busy

/-- Take an entry out of a tree, and all entries below it. -/
def remove (tree : FileTree) (path : Path) : FileTree :=
  match tree.resolve path with
  | .error _ => tree
  | .ok location =>
      { tree with
        entryAt := fun other =>
          if location.isSuffixOf other then none else tree.entryAt other }

end FileTree

end CgroupMeter
