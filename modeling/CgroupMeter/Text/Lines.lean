/-!
# Lines of a byte sequence

A line ends after a newline byte, or where the bytes end.  The newline is no
part of the line, and bytes that end with a newline have no empty line after
it.  A line is text when its bytes are valid UTF-8.
-/

namespace CgroupMeter.Text

/-- The newline byte. -/
def newline : UInt8 := 0x0A

/-- The first line of a sequence, without its terminator, and what follows
the terminator. -/
def takeLine {α : Type} [DecidableEq α] (terminator : α) :
    List α → List α × List α
  | [] => ([], [])
  | item :: rest =>
      if item = terminator then ([], rest)
      else
        let (line, after) := takeLine terminator rest
        (item :: line, after)

/-- The lines of a sequence, each without its terminator. -/
def linesBy {α : Type} [DecidableEq α] (terminator : α) :
    List α → List (List α)
  | [] => []
  | item :: rest =>
      if item = terminator then [] :: linesBy terminator rest
      else
        match linesBy terminator rest with
        | [] => [[item]]
        | line :: lines => (item :: line) :: lines

/-- The text that bytes encode, if they are valid UTF-8. -/
def ofBytes (bytes : List UInt8) : Option String :=
  String.fromUTF8? ⟨bytes.toArray⟩

/-- The bytes that encode a text. -/
def toBytes (text : String) : List UInt8 :=
  text.toByteArray.data.toList

/-- A text is read back from its bytes. -/
@[simp]
theorem ofBytes_toBytes (text : String) : ofBytes (toBytes text) = some text := by
  have same : (⟨(toBytes text).toArray⟩ : ByteArray) = text.toByteArray := by
    simp [toBytes]
  simp only [ofBytes, String.fromUTF8?, same]
  rw [dif_pos text.isValidUTF8]
  rfl

/-- A terminated first line stands before the lines of what follows it. -/
theorem linesBy_append_cons {α : Type} [DecidableEq α] {terminator : α}
    {line rest : List α} (unbroken : terminator ∉ line) :
    linesBy terminator (line ++ terminator :: rest) =
      line :: linesBy terminator rest := by
  induction line with
  | nil => simp [linesBy]
  | cons item line ih =>
      simp only [List.mem_cons, not_or] at unbroken
      simp [linesBy, ih unbroken.2, Ne.symm unbroken.1]

end CgroupMeter.Text
