import CgroupMeter.Json.Printer

/-!
# Written values are single lines

A written value holds no line feed: no byte of its own is one, and in a string
line feeds are escaped as all control characters are.
-/

namespace CgroupMeter.Json

open Byte

theorem newline_not_mem_escapeByte (byte : UInt8) :
    Text.newline ∉ escapeByte byte := by
  have each : ∀ code : Fin 256,
      Text.newline ∉ escapeByte (UInt8.ofNat code) := by
    decide +kernel
  simpa using each ⟨byte.toNat, byte.toNat_lt⟩

theorem newline_not_mem_printString (text : String) :
    Text.newline ∉ printString text := by
  have escaped : Text.newline ∉ (Text.toBytes text).flatMap escapeByte := by
    rw [List.mem_flatMap]
    rintro ⟨byte, -, member⟩
    exact newline_not_mem_escapeByte byte member
  have notQuote : Text.newline ≠ quote := by decide
  simp [printString, escaped, notQuote]

theorem newline_not_mem_digits (digits : List Decimal.Digit) :
    Text.newline ∉ digits.map Decimal.digitByte := by
  rw [List.mem_map]
  rintro ⟨digit, -, same⟩
  revert digit
  decide

theorem newline_not_mem_printNumber (number : JsonNumber) :
    Text.newline ∉ printNumber number := by
  have digits := newline_not_mem_digits
  have notSign : Text.newline ≠ minus ∧ Text.newline ≠ plus := by decide
  have notMark : Text.newline ≠ point ∧ Text.newline ≠ lowerE := by decide
  have fraction : Text.newline ∉ printFraction number.fraction := by
    cases number.fraction with
    | nil => exact List.not_mem_nil
    | cons digit rest =>
        simpa [printFraction, notMark] using digits (digit :: rest)
  have exponent : Text.newline ∉ printExponent number.exponent := by
    cases number.exponent with
    | none => exact List.not_mem_nil
    | some power =>
        have whole : Text.newline ∉ printNat power.natAbs := digits _
        simp only [printExponent, List.mem_cons, notMark, whole, false_or,
          or_false]
        split
        · exact notSign.1
        · exact notSign.2
  have sign : Text.newline ∉ if number.negative then [minus] else [] := by
    split
    · simp [notSign]
    · exact List.not_mem_nil
  simp only [printNumber, List.mem_append, not_or]
  exact ⟨⟨⟨sign, digits _⟩, fraction⟩, exponent⟩

theorem newline_not_mem_commaSeparated {parts : List (List UInt8)}
    (unbroken : ∀ part ∈ parts, Text.newline ∉ part) :
    Text.newline ∉ commaSeparated parts := by
  have notComma : Text.newline ≠ comma := by decide
  induction parts with
  | nil => exact List.not_mem_nil
  | cons part rest ih =>
      have first := unbroken part (by simp)
      have others := ih fun other member => unbroken other (by simp [member])
      cases rest with
      | nil => exact first
      | cons second rest => simp [commaSeparated, first, notComma, others]

mutual

/-- A written value holds no line feed. -/
theorem newline_not_mem_print : ∀ value, Text.newline ∉ print value
  | .null => by
      rw [print]
      decide
  | .bool true => by
      rw [print]
      decide
  | .bool false => by
      rw [print]
      decide
  | .number written => by
      rw [print]
      exact newline_not_mem_printNumber written
  | .string text => by
      rw [print]
      exact newline_not_mem_printString text
  | .array items => by
      have brackets : Text.newline ≠ openBracket ∧ Text.newline ≠ closeBracket := by
        decide
      have inside :=
        newline_not_mem_commaSeparated (newline_not_mem_printItems items)
      rw [print]
      simp [brackets, inside]
  | .object members => by
      have braces : Text.newline ≠ openBrace ∧ Text.newline ≠ closeBrace := by
        decide
      have inside :=
        newline_not_mem_commaSeparated (newline_not_mem_printMembers members)
      rw [print]
      simp [braces, inside]

theorem newline_not_mem_printItems : ∀ items, ∀ part ∈ printItems items,
    Text.newline ∉ part
  | [] => by simp [printItems]
  | item :: rest => by
      rw [printItems, List.forall_mem_cons]
      exact ⟨newline_not_mem_print item, newline_not_mem_printItems rest⟩

theorem newline_not_mem_printMembers : ∀ members, ∀ part ∈ printMembers members,
    Text.newline ∉ part
  | [] => by simp [printMembers]
  | (name, value) :: rest => by
      have notColon : Text.newline ≠ colon := by decide
      have named := newline_not_mem_printString name
      have valued := newline_not_mem_print value
      rw [printMembers, List.forall_mem_cons]
      refine ⟨?_, newline_not_mem_printMembers rest⟩
      simp [named, notColon, valued]

end

end CgroupMeter.Json
