import CgroupMeter.Proofs.Counter
import CgroupMeter.Proofs.Host.Reading
import CgroupMeter.Proofs.Text.Numeral

/-!
# What a text of one value stands for

Of a file of one value only the first line counts, without the blanks at its
ends.  It stands for no limit, for a number, or for a negative number, which
counts zero.  Whatever else it says is refused, and the refusal names it.
-/

namespace CgroupMeter

/-! ## The first line -/

namespace Text

theorem linesBy_eq_takeLine_cons {α : Type} [DecidableEq α] {terminator : α}
    {items : List α} (filled : items ≠ []) :
    linesBy terminator items =
      (takeLine terminator items).1 ::
        linesBy terminator (takeLine terminator items).2 := by
  induction items with
  | nil => exact absurd rfl filled
  | cons item rest ih =>
      by_cases ends : item = terminator
      · simp [linesBy, takeLine, ends]
      · cases rest with
        | nil => simp [linesBy, takeLine, ends]
        | cons second rest =>
            have others := ih (List.cons_ne_nil second rest)
            rw [linesBy, if_neg ends, others]
            simp [takeLine, ends]

end Text

namespace Lines

/-- The first line of a file is read when it is text, whatever follows it. -/
theorem first_ofBytes (bytes : List UInt8) :
    (ofBytes bytes).first =
      match Text.ofBytes (Text.takeLine Text.newline bytes).1 with
      | some line => .ok line
      | none => .error .notUtf8 := by
  by_cases empty : bytes = []
  -- A file without bytes has no line, and its first line counts as empty.
  · subst empty
    rfl
  · rw [ofBytes, Text.linesBy_eq_takeLine_cons empty]
    cases read : Text.ofBytes (Text.takeLine Text.newline bytes).1 with
    | some line => simp [ofByteLines_cons_text read, first]
    | none => simp [ofByteLines_cons_fault read, first, finish]

end Lines

/-! ## Texts of one value -/

namespace SingleValue

/-- A text stands for a number of 64 bits: the largest one when there is no
limit, the one that it denotes, or zero for any negative number. -/
inductive StandsFor (text : String) : Nat → Prop where
  | unlimited (word : text = "max") : StandsFor text (2 ^ 64 - 1)
  | number {number : Nat} (denotes : Numeral.Denotes text number)
      (small : number < 2 ^ 64) : StandsFor text number
  | negative {digits : List Char} (signed : text.toList = '-' :: digits)
      (filled : digits ≠ []) (each : ∀ char ∈ digits, char.isDigit = true) :
      StandsFor text 0

theorem not_denotes_max {number : Nat} : ¬ Numeral.Denotes "max" number := by
  intro denotes
  exact denotes.not_mem (by decide : ('m').isDigit = false) (by decide)
    (by decide)

theorem not_denotes_of_negative {text : String} {digits : List Char}
    {number : Nat} (signed : text.toList = '-' :: digits) :
    ¬ Numeral.Denotes text number := by
  intro denotes
  refine @Numeral.Denotes.not_mem _ _ '-' denotes (by decide) (by decide) ?_
  simp [signed]

/-- A text without a character stands for no number, and neither does one that
denotes a number beyond 64 bits. -/
theorem not_standsFor_of_unfit {text : String}
    (unfit : text = "" ∨
      ∃ large, Numeral.Denotes text large ∧ 2 ^ 64 ≤ large)
    (number : Nat) : ¬ StandsFor text number := by
  intro stands
  rcases unfit with rfl | ⟨large, denotes, tooLarge⟩
  · cases stands with
    | unlimited word => exact absurd word (by decide)
    | number denotes small => exact denotes.isWord.filled rfl
    | negative signed filled each => cases signed
  · cases stands with
    | unlimited word =>
        subst word
        exact not_denotes_max denotes
    | number other small =>
        rw [denotes.eq_valueAfter, ← other.eq_valueAfter] at tooLarge
        exact absurd small (Nat.not_lt.2 tooLarge)
    | negative signed filled each =>
        exact not_denotes_of_negative signed denotes

theorem isNegative_iff {text : String} :
    isNegative text = true ↔
      ∃ digits, text.toList = '-' :: digits ∧ digits ≠ [] ∧
        ∀ char ∈ digits, char.isDigit = true := by
  unfold isNegative
  split
  · rename_i char rest chars
    simp [chars]
  · rename_i other
    constructor
    · exact nofun
    · rintro ⟨_ | ⟨char, rest⟩, signed, filled, -⟩
      · exact absurd rfl filled
      · exact absurd signed (other char rest)

theorem ofText_eq_ok_of_denotes {text : String} {value : Counter}
    (denotes : Numeral.Denotes text value.toNat) : ofText text = .ok value := by
  have different : text ≠ "max" := by
    rintro rfl
    exact not_denotes_max denotes
  simp [ofText, different, Numeral.readUInt64_eq_ok_iff.2 denotes]

theorem exists_ofText_of_standsFor {text : String} {number : Nat}
    (stands : StandsFor text number) :
    ∃ value, ofText text = .ok value ∧ value.toNat = number := by
  cases stands with
  | unlimited word =>
      subst word
      exact ⟨Counter.largest, rfl, rfl⟩
  | number denotes small =>
      have same : (UInt64.ofNat number).toNat = number :=
        UInt64.toNat_ofNat_of_lt' small
      refine ⟨UInt64.ofNat number, ofText_eq_ok_of_denotes ?_, same⟩
      rwa [same]
  | @negative digits signed filled each =>
      refine ⟨0, ?_, rfl⟩
      have different : text ≠ "max" := by
        rintro rfl
        cases signed
      have negative : isNegative text = true :=
        isNegative_iff.2 ⟨digits, signed, filled, each⟩
      cases read : Numeral.readUInt64 text with
      | ok value =>
          have denotes := Numeral.readUInt64_eq_ok_iff.1 read
          exact absurd denotes (not_denotes_of_negative signed)
      | error cause => simp [ofText, different, read, negative]

/-- What a text does not stand for is not read, and the refusal names the
text. -/
theorem ofText_cases (text : String) :
    (∃ value, ofText text = .ok value ∧ StandsFor text value.toNat) ∨
      ∃ cause, ofText text = .error (.invalidValue text 1 cause) := by
  unfold ofText
  split
  · rename_i word
    exact Or.inl ⟨Counter.largest, rfl, .unlimited word⟩
  · split
    · rename_i value read
      have denotes := Numeral.readUInt64_eq_ok_iff.1 read
      exact Or.inl ⟨value, rfl, .number denotes value.toNat_lt⟩
    · rename_i cause read
      split
      · rename_i negative
        rcases isNegative_iff.1 negative with ⟨digits, signed, filled, each⟩
        exact Or.inl ⟨0, rfl, .negative signed filled each⟩
      · exact Or.inr ⟨cause, rfl⟩

theorem ofText_eq_ok_iff {text : String} {value : Counter} :
    ofText text = .ok value ↔ StandsFor text value.toNat := by
  constructor
  · intro read
    rcases ofText_cases text with ⟨other, again, stands⟩ | ⟨cause, refused⟩
    · cases again.symm.trans read
      exact stands
    · cases refused.symm.trans read
  · intro stands
    rcases exists_ofText_of_standsFor stands with ⟨other, read, same⟩
    rw [read, Counter.eq_of_toNat same]

theorem exists_ofText_eq_error_iff {text : String} :
    (∃ cause, ofText text = .error (.invalidValue text 1 cause)) ↔
      ∀ number, ¬ StandsFor text number := by
  constructor
  · rintro ⟨cause, refused⟩ number stands
    rcases exists_ofText_of_standsFor stands with ⟨value, read, -⟩
    cases refused.symm.trans read
  · intro none
    rcases ofText_cases text with ⟨value, -, stands⟩ | refused
    · exact absurd stands (none _)
    · exact refused

/-- A file of one value is read as what its trimmed first line says. -/
theorem read_ofBytes (bytes : List UInt8) :
    read (Lines.ofBytes bytes) =
      match Text.ofBytes (Text.takeLine Text.newline bytes).1 with
      | some line => (ofText (Text.trim line)).mapError .parse
      | none => .error (.read .notUtf8) := by
  rw [read, firstLine, Lines.first_ofBytes]
  cases Text.ofBytes (Text.takeLine Text.newline bytes).1 <;> rfl

theorem read_directory :
    read (Lines.ofEntry .directory) =
      .error (.read (.refused .isADirectory)) := rfl

end SingleValue

end CgroupMeter
