import CgroupMeter.Host.FileTree
import CgroupMeter.Program
import CgroupMeter.Report

/-!
# Inquiries into the host

An inquiry reads the host and changes nothing in it: it opens files, looks
whether a path leads to a directory, counts the CPUs that it may run on, and
makes reports.  Against a fixed view
of the host an inquiry has one value and one list of reports.

The content of an opened file is taken line by line.  What a reader can see of
it are the lines up to the first one that cannot be read, and the fault of
that one.
-/

namespace CgroupMeter

/-- What an inquiry asks of the host. -/
inductive Query where
  | openFile (path : Path)
  | isDirectory (path : Path)
  | visibleCpus
  | report (report : Report)

/-- The answer to a query. -/
@[reducible]
def Query.Answer : Query → Type
  | .openFile _ => Except OsError Entry
  | .isDirectory _ => Bool
  | .visibleCpus => UInt32
  | .report _ => Unit

/-- A program that reads the host. -/
abbrev Inquiry := Program Query Query.Answer

/-- The view of the host that its files give. -/
def FileTree.view (tree : FileTree) : (query : Query) → query.Answer
  | .openFile path => tree.openFile path
  | .isDirectory path => tree.isDirectory path
  | .visibleCpus => tree.visibleCpus
  | .report _ => ()

/-- The report that a query makes, if it makes one. -/
def Query.report? : Query → Option Report
  | .report made => some made
  | _ => none

namespace Inquiry

/-- Ask one query. -/
def ask (query : Query) : Inquiry query.Answer :=
  Program.request query

/-- Make a report. -/
def report (level : Level) (text : String) : Inquiry Unit :=
  ask (.report ⟨level, text⟩)

/-- Does the path lead to a directory? -/
def isDirectory (path : Path) : Inquiry Bool :=
  ask (.isDirectory path)

/-- The CPUs that this program may run on. -/
def visibleCpus : Inquiry UInt32 :=
  ask .visibleCpus

/-- Open a file. -/
def openFile (path : Path) : Inquiry (Except OpenError Entry) := do
  let opened : Except OsError Entry ← ask (.openFile path)
  return opened.mapError fun cause => ⟨path, cause⟩

/-- What an inquiry finds in a tree. -/
def found {α : Type} (inquiry : Inquiry α) (tree : FileTree) : α :=
  inquiry.eval tree.view

/-- The reports that an inquiry makes when it is put to a tree. -/
def reports {α : Type} (inquiry : Inquiry α) (tree : FileTree) : List Report :=
  (inquiry.trace tree.view).filterMap Query.report?

end Inquiry

/-- The lines of an opened file as far as they can be read. -/
structure Lines where
  /-- The texts of the lines before the first fault. -/
  texts : List String
  /-- What keeps the next line from being read, if anything does. -/
  fault : Option ReadFault
  deriving DecidableEq

namespace Lines

/-- The lines of byte sequences, up to the first that is no text. -/
def ofByteLines : List (List UInt8) → Lines
  | [] => ⟨[], none⟩
  | line :: rest =>
      match Text.ofBytes line with
      | none => ⟨[], some .notUtf8⟩
      | some text =>
          let after := ofByteLines rest
          ⟨text :: after.texts, after.fault⟩

/-- The lines of a file with the given bytes. -/
def ofBytes (bytes : List UInt8) : Lines :=
  ofByteLines (Text.linesBy Text.newline bytes)

/-- The lines of an opened entry.  A directory has none that can be read. -/
def ofEntry : Entry → Lines
  | .directory => ⟨[], some (.refused .isADirectory)⟩
  | .file bytes => ofBytes bytes

/-- The value, if every line could be read. -/
def finish {α : Type} (lines : Lines) (value : α) : Except ReadFault α :=
  match lines.fault with
  | none => .ok value
  | some fault => .error fault

/-- The first line, which is empty if there is none. -/
def first (lines : Lines) : Except ReadFault String :=
  match lines.texts with
  | text :: _ => .ok text
  | [] => lines.finish ""

end Lines

/-- The lines of the file at a path. -/
def Inquiry.readLines (path : Path) : Inquiry (Except OpenError Lines) := do
  return (← openFile path).map Lines.ofEntry

end CgroupMeter
