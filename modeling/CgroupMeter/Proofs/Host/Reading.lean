import CgroupMeter.Group.StatFile
import CgroupMeter.Proofs.Text.Lines
import Mathlib.Data.List.Basic

/-!
# What an inquiry finds

What an inquiry finds in a tree is found step by step, and of the tree it only
sees the lines at the paths that it opens.  Two trees that show the same at a
path are not told apart by reading there, whatever else they hold.

The lines of a file are all read exactly when each of them is text.
-/

namespace CgroupMeter

theorem exists_ok_of_isOk {ε α : Type} {result : Except ε α}
    (isOk : result.isOk = true) : ∃ value, result = .ok value := by
  cases result with
  | error error => cases isOk
  | ok value => exact ⟨value, rfl⟩

section MapError

variable {α ε ε' : Type} {result : Except ε α} {said : ε → ε'}

theorem mapError_eq_ok_iff {value : α} :
    result.mapError said = .ok value ↔ result = .ok value := by
  cases result <;> simp [Except.mapError]

theorem mapError_eq_error_iff {error : ε'} :
    result.mapError said = .error error ↔
      ∃ cause, result = .error cause ∧ said cause = error := by
  cases result <;> simp [Except.mapError]

end MapError

namespace Inquiry

variable {α β : Type} (tree : FileTree)

@[simp]
theorem found_pure (value : α) :
    (pure value : Inquiry α).found tree = value := rfl

@[simp]
theorem found_bind (inquiry : Inquiry α) (next : α → Inquiry β) :
    (inquiry >>= next).found tree = (next (inquiry.found tree)).found tree :=
  Program.eval_bind tree.view inquiry next

@[simp]
theorem found_map (transform : α → β) (inquiry : Inquiry α) :
    (transform <$> inquiry).found tree = transform (inquiry.found tree) :=
  Program.eval_map tree.view transform inquiry

@[simp]
theorem reports_pure (value : α) :
    (pure value : Inquiry α).reports tree = [] := rfl

@[simp]
theorem reports_bind (inquiry : Inquiry α) (next : α → Inquiry β) :
    (inquiry >>= next).reports tree =
      inquiry.reports tree ++ (next (inquiry.found tree)).reports tree := by
  simp [reports, found]

@[simp]
theorem reports_map (transform : α → β) (inquiry : Inquiry α) :
    (transform <$> inquiry).reports tree = inquiry.reports tree := by
  simp [reports]

@[simp]
theorem found_visibleCpus : visibleCpus.found tree = tree.visibleCpus := rfl

@[simp]
theorem reports_visibleCpus : visibleCpus.reports tree = [] := rfl

@[simp]
theorem reports_report (level : Level) (text : String) :
    (report level text).reports tree = [⟨level, text⟩] := rfl

end Inquiry

namespace FileTree

/-- The lines at a path, as far as they can be read. -/
def linesAt (tree : FileTree) (path : Path) : Except OpenError Lines :=
  ((tree.openFile path).mapError fun cause => ⟨path, cause⟩).map Lines.ofEntry

/-- Two trees show the same at a path: the same entry is opened there in both,
or none in either. -/
def ShowSame (first second : FileTree) (path : Path) : Prop :=
  (first.openFile path).toOption = (second.openFile path).toOption

theorem ShowSame.refl (tree : FileTree) (path : Path) :
    ShowSame tree tree path := rfl

theorem ShowSame.toOption_linesAt {first second : FileTree} {path : Path}
    (same : ShowSame first second path) :
    (first.linesAt path).toOption = (second.linesAt path).toOption := by
  unfold ShowSame at same
  unfold linesAt
  cases before : first.openFile path with
  | error cause =>
      cases after : second.openFile path with
      | error other => rfl
      | ok entry => simp [before, after, Except.toOption] at same
  | ok entry =>
      cases after : second.openFile path with
      | error cause => simp [before, after, Except.toOption] at same
      | ok other =>
          simp only [before, after, Except.toOption, Option.some.injEq] at same
          rw [same]

theorem ShowSame.linesAt_eq_ok {first second : FileTree} {path : Path}
    {lines : Lines} (same : ShowSame first second path)
    (opened : first.linesAt path = .ok lines) :
    second.linesAt path = .ok lines := by
  have shown := same.toOption_linesAt
  rw [opened] at shown
  cases other : second.linesAt path with
  | error error => simp [other, Except.toOption] at shown
  | ok others =>
      simp only [other, Except.toOption, Option.some.injEq] at shown
      rw [shown]

/-- The lines of the file at a path, each as its bytes. -/
def byteLinesAt (tree : FileTree) (path : Path) : Option (List (List UInt8)) :=
  match tree.openFile path with
  | .ok (.file bytes) => some (Text.linesBy Text.newline bytes)
  | _ => none

end FileTree

@[simp]
theorem Inquiry.found_readLines (path : Path) (tree : FileTree) :
    (Inquiry.readLines path).found tree = tree.linesAt path := rfl

namespace Lines

/-- A line that can be read. -/
def Readable (line : List UInt8) : Prop :=
  ∃ text, Text.ofBytes line = some text

theorem ofByteLines_cons_text {line : List UInt8} {text : String}
    (read : Text.ofBytes line = some text) (rest : List (List UInt8)) :
    ofByteLines (line :: rest) =
      ⟨text :: (ofByteLines rest).texts, (ofByteLines rest).fault⟩ := by
  simp [ofByteLines, read]

theorem ofByteLines_cons_fault {line : List UInt8}
    (unread : Text.ofBytes line = none) (rest : List (List UInt8)) :
    ofByteLines (line :: rest) = ⟨[], some .notUtf8⟩ := by
  simp [ofByteLines, unread]

/-- All lines of a file are read exactly when each of them is text. -/
theorem fault_ofByteLines_eq_none_iff (lines : List (List UInt8)) :
    (ofByteLines lines).fault = none ↔ ∀ line ∈ lines, Readable line := by
  induction lines with
  | nil => simp [ofByteLines]
  | cons line rest ih =>
      cases read : Text.ofBytes line with
      | none => simp [ofByteLines_cons_fault read, Readable, read]
      | some text => simp [ofByteLines_cons_text read, Readable, read, ih]

theorem mem_texts_ofByteLines_iff {lines : List (List UInt8)}
    (whole : ∀ line ∈ lines, Readable line) {text : String} :
    text ∈ (ofByteLines lines).texts ↔
      ∃ line ∈ lines, Text.ofBytes line = some text := by
  induction lines with
  | nil => simp [ofByteLines]
  | cons line rest ih =>
      rcases whole line List.mem_cons_self with ⟨first, read⟩
      have others := ih fun line member =>
        whole line (List.mem_cons_of_mem _ member)
      simp [ofByteLines_cons_text read, read, others, eq_comm]

theorem texts_ofByteLines_of_readable {lines : List (List UInt8)}
    (whole : ∀ line ∈ lines, Readable line) :
    (ofByteLines lines).texts = lines.filterMap Text.ofBytes := by
  induction lines with
  | nil => rfl
  | cons line rest ih =>
      rcases whole line List.mem_cons_self with ⟨first, read⟩
      have others := ih fun line member =>
        whole line (List.mem_cons_of_mem _ member)
      simp [ofByteLines_cons_text read, read, others]

end Lines

namespace FileTree

variable {tree : FileTree} {path : Path}

theorem linesAt_of_byteLinesAt {byteLines : List (List UInt8)}
    (file : tree.byteLinesAt path = some byteLines) :
    tree.linesAt path = .ok (Lines.ofByteLines byteLines) := by
  unfold byteLinesAt at file
  split at file
  · rename_i bytes opened
    cases file
    simp [linesAt, opened, Except.mapError, Except.map, Lines.ofEntry,
      Lines.ofBytes]
  · cases file

theorem linesAt_of_text {text : String}
    (file : tree.openFile path = .ok (.file (Text.toBytes text))) :
    tree.linesAt path = .ok ⟨Text.linesOf text, none⟩ := by
  simp [linesAt, file, Except.mapError, Except.map, Lines.ofEntry,
    ← Lines.ofText_eq, Lines.ofText]

theorem linesAt_of_byteLinesAt_eq_none
    (noFile : tree.byteLinesAt path = none) :
    (∃ error, tree.linesAt path = .error error) ∨
      tree.linesAt path = .ok ⟨[], some (.refused .isADirectory)⟩ := by
  unfold byteLinesAt at noFile
  unfold linesAt
  cases opened : tree.openFile path with
  | error cause => exact Or.inl ⟨_, rfl⟩
  | ok entry =>
      cases entry with
      | directory => exact Or.inr rfl
      | file bytes => simp [opened] at noFile

end FileTree

end CgroupMeter
