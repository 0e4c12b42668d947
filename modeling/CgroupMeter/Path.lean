import CgroupMeter.Text.Split

/-!
# Path texts

A path is kept as its text, since every answer shows that text.  Between its
slashes stand the segments of a path; the empty segment and `.` name nothing,
and the other segments are the names of the path.

Three places fix where a path starts: the root, the current directory written
as a leading `.`, and the current directory left unwritten.  Taking a parent,
stripping the root and replacing a name act on the segments after the start
and first drop the segments at the end that name nothing.
-/

namespace CgroupMeter

/-- A path of the host, as text. -/
structure Path where
  text : String
  deriving DecidableEq

namespace Path

/-- A segment that names nothing. -/
def isVoid (segment : String) : Bool :=
  segment == "" || segment == "."

/-- The text of segments with slashes between them. -/
def joinSegments (segments : List String) : String :=
  String.ofList (['/'].intercalate (segments.map String.toList))

/-- What stands between the slashes of a path. -/
def segments (path : Path) : List String :=
  Text.split '/' path.text

/-- The names of a path: its segments that name something. -/
def names (path : Path) : List String :=
  path.segments.filter fun segment => !isVoid segment

/-- A path is absolute when its text starts with a slash. -/
def isAbsolute (path : Path) : Bool :=
  path.text.toList.head? == some '/'

/-- A path below another: an absolute path stands for itself, any other path
follows the first one after a slash. -/
def join (base path : Path) : Path :=
  if path.isAbsolute then path
  else if base.text.toList = [] || base.text.toList.getLast? == some '/' then
    ⟨base.text ++ path.text⟩
  else
    ⟨base.text ++ "/" ++ path.text⟩

/-- Where a path starts. -/
inductive Start where
  /-- At the root of the tree. -/
  | root
  /-- At the current directory, written as a leading `.`. -/
  | here
  /-- At the current directory, left unwritten. -/
  | plain
  deriving DecidableEq

/-- A path taken apart: where it starts and the segments that follow. -/
structure Layout where
  start : Start
  body : List String

/-- The parts of a path. -/
def layout (path : Path) : Layout :=
  if path.isAbsolute then ⟨.root, path.segments.tail⟩
  else if path.segments.head? == some "." then ⟨.here, path.segments.tail⟩
  else ⟨.plain, path.segments⟩

/-- The path with the given parts. -/
def Layout.path (layout : Layout) : Path :=
  match layout.start, layout.body with
  | .root, body => ⟨"/" ++ joinSegments body⟩
  | .here, [] => ⟨"."⟩
  | .here, body => ⟨"./" ++ joinSegments body⟩
  | .plain, body => ⟨joinSegments body⟩

/-- Segments without those at the end that name nothing. -/
def dropVoidEnd (segments : List String) : List String :=
  (segments.reverse.dropWhile isVoid).reverse

/-- The segments of a path up to its last name. -/
def Layout.named (layout : Layout) : List String :=
  dropVoidEnd layout.body

/-- The path without its last name.  The root and the empty path have no
parent. -/
def parent (path : Path) : Option Path :=
  let layout := path.layout
  match layout.named, layout.start with
  | [], .here => some ⟨""⟩
  | [], _ => none
  | named, start => some (Layout.path ⟨start, dropVoidEnd named.dropLast⟩)

/-- The path, its parent, and so on up to the root or the start of a relative
path. -/
def ancestorsUpTo : Nat → Path → List Path
  | 0, _ => []
  | depth + 1, path =>
      if path.text = "" then []
      else
        path :: match path.parent with
          | none => []
          | some outer => ancestorsUpTo depth outer

/-- The path and all its parents that name something, innermost first. -/
def ancestors (path : Path) : List Path :=
  ancestorsUpTo (path.segments.length + 1) path

/-- The last name of a path, unless it is `..`. -/
def fileName (path : Path) : Option String :=
  match path.layout.named.getLast? with
  | some ".." => none
  | name => name

/-- The path with another last name. -/
def withFileName (path : Path) (name : String) : Path :=
  let layout := path.layout
  Layout.path ⟨layout.start, layout.named.dropLast ++ [name]⟩

/-- A name cut at its last dot.  A name without a dot, or with no other dot
than its first character, is all stem. -/
def cutName (name : String) : String × Option String :=
  let reversed := name.toList.reverse
  match reversed.dropWhile (· ≠ '.') with
  | [] => (name, none)
  | [_] => (name, none)
  | _ :: stem =>
      (String.ofList stem.reverse,
        some (String.ofList (reversed.takeWhile (· ≠ '.')).reverse))

/-- The extension of a path: what follows the last dot of its last name. -/
def extension (path : Path) : Option String :=
  path.fileName.bind fun name => (cutName name).2

/-- The path without its last characters. -/
def dropEnd (path : Path) (count : Nat) : Path :=
  ⟨String.ofList (path.text.toList.take (path.text.toList.length - count))⟩

/-- The path with another extension.  The characters of the old extension are
dropped from the end of the text; the stem of the last name that is then there
is followed by the new extension.  A path without a last name is left so. -/
def withExtension (path : Path) (extension : String) : Path :=
  let shortened :=
    match path.extension with
    | none => path
    | some old => path.dropEnd old.length
  match shortened.fileName with
  | none => shortened
  | some name => shortened.withFileName ((cutName name).1 ++ "." ++ extension)

/-- An absolute path without its root; any other path is left as it is. -/
def stripRoot (path : Path) : Path :=
  match path.layout with
  | ⟨.root, body⟩ => ⟨joinSegments (dropVoidEnd (body.dropWhile isVoid))⟩
  | _ => path

/-- A path of the host seen below the place where the host's root is visible. -/
def below (path root : Path) : Path :=
  root.join path.stripRoot

end Path

end CgroupMeter
