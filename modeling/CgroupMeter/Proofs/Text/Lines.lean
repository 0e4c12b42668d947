import CgroupMeter.Host.Inquiry
import CgroupMeter.Proofs.Text.Order

/-!
# The lines of a text

In UTF-8 a line feed is a byte of its own, which is part of no other character.
So a file that holds a text has the lines of the text, and all of them can be
read.  A text that ends with a line feed has its lines before those of
whatever is put behind it.
-/

namespace CgroupMeter

namespace Text

section Sequence

variable {α : Type} [DecidableEq α] {terminator : α}

theorem linesBy_ne_nil {items : List α} (filled : items ≠ []) :
    linesBy terminator items ≠ [] := by
  cases items with
  | nil => exact absurd rfl filled
  | cons item rest =>
      rw [linesBy]
      split
      · exact List.cons_ne_nil _ _
      · split <;> exact List.cons_ne_nil _ _

/-- Items without a terminator belong to the first line of what follows. -/
theorem linesBy_append_of_not_mem {items : List α} (filled : items ≠ [])
    (unbroken : terminator ∉ items) (rest : List α) :
    linesBy terminator (items ++ rest) =
      match linesBy terminator rest with
      | [] => [items]
      | line :: lines => (items ++ line) :: lines := by
  induction items with
  | nil => exact absurd rfl filled
  | cons item items ih =>
      simp only [List.mem_cons, not_or] at unbroken
      rw [List.cons_append, linesBy, if_neg (Ne.symm unbroken.1)]
      cases items with
      | nil => rfl
      | cons second items =>
          rw [ih (List.cons_ne_nil _ _) unbroken.2]
          cases linesBy terminator rest <;> rfl

/-- Lines that are terminated stand before those of what follows. -/
theorem linesBy_append_terminated (items rest : List α) :
    linesBy terminator (items ++ terminator :: rest) =
      linesBy terminator (items ++ [terminator]) ++ linesBy terminator rest := by
  induction items with
  | nil => simp [linesBy]
  | cons item items ih =>
      rw [List.cons_append, List.cons_append, linesBy, linesBy, ih]
      split
      · rfl
      · cases lines : linesBy terminator (items ++ [terminator]) with
        | nil => exact absurd lines (linesBy_ne_nil (by simp))
        | cons line others => rfl

end Sequence

/-- The lines of a text. -/
def linesOf (text : String) : List String :=
  (linesBy '\n' text.toList).map String.ofList

theorem linesOf_append_newline (first second : String) :
    linesOf (first ++ "\n" ++ second) =
      linesOf (first ++ "\n") ++ linesOf second := by
  have chars : (first ++ "\n" ++ second).toList =
      first.toList ++ '\n' :: second.toList := by
    simp
  rw [linesOf, chars, linesBy_append_terminated]
  simp [linesOf]

theorem linesOf_line_append {line : String} (unbroken : '\n' ∉ line.toList)
    (rest : String) : linesOf (line ++ "\n" ++ rest) = line :: linesOf rest := by
  have chars : (line ++ "\n" ++ rest).toList =
      line.toList ++ '\n' :: rest.toList := by
    simp
  rw [linesOf, chars, linesBy_append_cons unbroken]
  simp [linesOf]

theorem linesOf_newline_append (rest : String) :
    linesOf ("\n" ++ rest) = "" :: linesOf rest := by
  have first : '\n' ∉ "".toList := by simp
  simpa using linesOf_line_append first rest

theorem linesOf_line {line : String} (filled : line ≠ "")
    (unbroken : '\n' ∉ line.toList) : linesOf line = [line] := by
  have chars : line.toList ≠ [] := mt String.toList_eq_nil_iff.1 filled
  have alone := linesBy_append_of_not_mem chars unbroken []
  rw [List.append_nil] at alone
  rw [linesOf, alone]
  simp [linesBy]

/-! ## Line feeds among bytes -/

theorem newline_not_mem_encode {char : Char} (other : char ≠ '\n') :
    newline ∉ String.utf8EncodeChar char := by
  have code : char.val.toNat ≠ 10 := by
    intro same
    exact other (Char.ext (UInt32.toNat_inj.1 same))
  have bound := code_lt_of_char char
  unfold String.utf8EncodeChar newline
  generalize char.val.toNat = number at code bound
  simp only
  split_ifs
  case pos =>
    simp (disch := omega) only [List.mem_singleton, ← UInt8.toNat_inj,
      UInt8.toNat_ofNat', Nat.mod_eq_of_lt]
    simpa using Ne.symm code
  -- All bytes of a longer character are at least 128.
  all_goals
    simp (disch := omega) only [List.mem_cons, List.not_mem_nil, or_false,
      ← UInt8.toNat_inj, UInt8.toNat_ofNat', Nat.mod_eq_of_lt]
    simp

theorem linesBy_flatMap_encode (chars : List Char) :
    linesBy newline (chars.flatMap String.utf8EncodeChar) =
      (linesBy '\n' chars).map fun line =>
        line.flatMap String.utf8EncodeChar := by
  induction chars with
  | nil => rfl
  | cons char rest ih =>
      rw [List.flatMap_cons]
      by_cases same : char = '\n'
      · subst same
        have feed : String.utf8EncodeChar '\n' = [newline] := by decide
        simp [feed, linesBy, ih]
      · rw [linesBy_append_of_not_mem String.utf8EncodeChar_ne_nil
          (newline_not_mem_encode same), ih, linesBy, if_neg same]
        cases linesBy '\n' rest <;> simp

theorem linesBy_toBytes (text : String) :
    linesBy newline (toBytes text) = (linesOf text).map toBytes := by
  simp [toBytes_eq_flatMap, linesBy_flatMap_encode, linesOf]

end Text

namespace Lines

/-- Lines that are text are read, whatever lines follow. -/
theorem ofByteLines_map_toBytes_append (texts : List String)
    (rest : List (List UInt8)) :
    ofByteLines (texts.map Text.toBytes ++ rest) =
      ⟨texts ++ (ofByteLines rest).texts, (ofByteLines rest).fault⟩ := by
  induction texts with
  | nil => rfl
  | cons text texts ih => simp [ofByteLines, ih]

theorem ofByteLines_map_toBytes (texts : List String) :
    ofByteLines (texts.map Text.toBytes) = ⟨texts, none⟩ := by
  simpa [ofByteLines] using ofByteLines_map_toBytes_append texts []

/-- The lines of a file that holds a text. -/
def ofText (text : String) : Lines :=
  ofBytes (Text.toBytes text)

/-- They are the lines of the text, and all of them can be read. -/
@[simp]
theorem ofText_eq (text : String) : ofText text = ⟨Text.linesOf text, none⟩ := by
  rw [ofText, ofBytes, Text.linesBy_toBytes, ofByteLines_map_toBytes]

end Lines

end CgroupMeter
