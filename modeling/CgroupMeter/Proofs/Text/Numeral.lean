import CgroupMeter.Proofs.Text.Words
import CgroupMeter.Stat.SingleValue

/-!
# Numbers in files

A number is written with its decimal digits and is read back from them, as
long as it is below the bound.  Its digits are one word, which holds no mark
of the formats that are read.
-/

namespace CgroupMeter

namespace Numeral

theorem valueAfter_eq (value : Nat) (chars : List Char) :
    valueAfter value chars = Nat.ofDigitChars 10 chars value := by
  simp only [valueAfter, Nat.ofDigitChars, Nat.mul_comm]

theorem le_valueAfter (value : Nat) (chars : List Char) :
    value ≤ valueAfter value chars := by
  induction chars generalizing value with
  | nil => exact Nat.le_refl value
  | cons char rest ih =>
      have step : value ≤ value * 10 + (char.toNat - '0'.toNat) := by omega
      exact Nat.le_trans step (ih _)

/-- Digits that denote a number below the bound are read as that number. -/
theorem readDigits_of_lt {bound : Nat} {chars : List Char} {value : Nat}
    (digits : ∀ char ∈ chars, char.isDigit = true)
    (small : valueAfter value chars < bound) :
    readDigits bound value chars = .ok (valueAfter value chars) := by
  induction chars generalizing value with
  | nil => rfl
  | cons char rest ih =>
      have digit := digits char List.mem_cons_self
      have next : value * 10 + (char.toNat - '0'.toNat) < bound :=
        Nat.lt_of_le_of_lt (le_valueAfter _ rest) small
      simp only [readDigits, digitValue, digit, if_true, next]
      exact ih (fun other member => digits other (List.mem_cons_of_mem _ member))
        small

theorem unsigned_of_digit {char : Char} {rest : List Char}
    (digit : char.isDigit = true) : unsigned (char :: rest) = char :: rest := by
  unfold unsigned
  split
  · rename_i signed
    cases signed
    simp at digit
  · rfl

/-- A number that fits is read back from its digits. -/
@[simp]
theorem readUInt64_repr (number : UInt64) :
    readUInt64 number.toNat.repr = .ok number := by
  have digits : ∀ char ∈ Nat.toDigits 10 number.toNat, char.isDigit = true :=
    fun char member => Nat.isDigit_of_mem_toDigits (by decide) (by decide) member
  have value : valueAfter 0 (Nat.toDigits 10 number.toNat) = number.toNat := by
    rw [valueAfter_eq, Nat.ofDigitChars_ten_toDigits]
  have read : readChars UInt64.size (Nat.toDigits 10 number.toNat) =
      .ok number.toNat := by
    cases chars : Nat.toDigits 10 number.toNat with
    | nil => exact absurd chars Nat.toDigits_ne_nil
    | cons char rest =>
        rw [chars] at digits value
        rw [readChars, unsigned_of_digit (digits char List.mem_cons_self),
          readDigits_of_lt digits (by rw [value]; exact number.toNat_lt), value]
        exact nofun
  simp [readUInt64, Nat.toList_repr, read, Except.map]

/-- A text denotes a number: it has decimal digits, after an optional plus
sign. -/
def Denotes (text : String) (number : Nat) : Prop :=
  ∃ digits : List Char, (text.toList = digits ∨ text.toList = '+' :: digits) ∧
    digits ≠ [] ∧ (∀ char ∈ digits, char.isDigit = true) ∧
    number = valueAfter 0 digits

/-- A text that denotes a number holds nothing but digits and a plus sign. -/
theorem Denotes.not_mem {text : String} {number : Nat} {char : Char}
    (denotes : Denotes text number) (noDigit : char.isDigit = false)
    (noSign : char ≠ '+') : char ∉ text.toList := by
  rcases denotes with ⟨digits, written, -, each, -⟩
  have outside : char ∉ digits := by
    intro member
    rw [each char member] at noDigit
    cases noDigit
  rcases written with same | signed
  · rwa [same]
  · simp [signed, outside, noSign]

theorem unsigned_eq {chars : List Char} (filled : chars ≠ []) :
    unsigned chars ≠ [] ∧
      (chars = unsigned chars ∨ chars = '+' :: unsigned chars) := by
  unfold unsigned
  split
  · exact ⟨List.cons_ne_nil _ _, Or.inr rfl⟩
  · exact ⟨filled, Or.inl rfl⟩

theorem unsigned_of_digits {chars digits : List Char} (filled : digits ≠ [])
    (each : ∀ char ∈ digits, char.isDigit = true)
    (written : chars = digits ∨ chars = '+' :: digits) :
    unsigned chars = digits := by
  cases digits with
  | nil => exact absurd rfl filled
  | cons char rest =>
      rcases written with rfl | rfl
      · exact unsigned_of_digit (each char List.mem_cons_self)
      · rfl

theorem Denotes.eq_valueAfter {text : String} {number : Nat}
    (denotes : Denotes text number) :
    number = valueAfter 0 (unsigned text.toList) := by
  rcases denotes with ⟨digits, written, filled, each, value⟩
  rw [unsigned_of_digits filled each written, value]

/-- A number that is read is below the bound. -/
theorem readDigits_lt {bound value result : Nat} {chars : List Char}
    (small : value < bound) (read : readDigits bound value chars = .ok result) :
    result < bound := by
  induction chars generalizing value with
  | nil =>
      cases read
      exact small
  | cons char rest ih =>
      rw [readDigits] at read
      split at read
      · cases read
      · split at read
        · exact ih ‹_› read
        · cases read

/-- What is read is what the text denotes, and it is read when it fits. -/
theorem readUInt64_eq_ok_iff {text : String} {number : UInt64} :
    readUInt64 text = .ok number ↔ Denotes text number.toNat := by
  constructor
  · intro read
    have filled : text.toList ≠ [] := by
      intro empty
      simp [readUInt64, readChars, empty, Except.map] at read
    rw [readUInt64, readChars] at read
    · cases told : readDigits UInt64.size 0 (unsigned text.toList) with
      | error error => simp [told, Except.map] at read
      | ok result =>
          have small := readDigits_lt (by decide) told
          simp only [told, Except.map, Except.ok.injEq] at read
          subst read
          rw [UInt64.toNat_ofNat_of_lt' small]
          rcases readDigits_eq_ok told with ⟨digits, value⟩
          rcases unsigned_eq filled with ⟨nonempty, written⟩
          exact ⟨unsigned text.toList, written, nonempty, by simpa using digits,
            value⟩
    · exact filled
  · rintro ⟨digits, written, filled, each, value⟩
    have small : valueAfter 0 digits < UInt64.size := by
      rw [← value]
      exact number.toNat_lt
    have nonempty : text.toList ≠ [] := by
      rcases written with same | signed
      · simpa [same] using filled
      · simp [signed]
    have read : readChars UInt64.size text.toList = .ok number.toNat := by
      rw [readChars, unsigned_of_digits filled each written,
        readDigits_of_lt each small, value]
      exact nonempty
    simp [readUInt64, read, Except.map]

end Numeral

namespace Text

theorem isBlank_eq_false_of_isDigit {char : Char}
    (digit : char.isDigit = true) : isBlank char = false := by
  have range : 48 ≤ char.toNat ∧ char.toNat ≤ 57 := by
    simpa [Char.isDigit, Char.le_def, UInt32.le_iff_toNat_le] using digit
  simp only [isBlank, Bool.or_eq_false_iff, Bool.and_eq_false_iff,
    decide_eq_false_iff_not, beq_eq_false_iff_ne]
  omega

theorem isWord_repr (number : Nat) : IsWord number.repr where
  filled := by
    intro empty
    have chars : Nat.toDigits 10 number = [] := by
      rw [← Nat.toList_repr, empty]
      rfl
    exact Nat.toDigits_ne_nil chars
  solid := by
    intro char member
    rw [Nat.toList_repr] at member
    exact isBlank_eq_false_of_isDigit
      (Nat.isDigit_of_mem_toDigits (by decide) (by decide) member)

/-- The digits of a number hold nothing but digits. -/
theorem not_mem_repr {char : Char} (mark : char.isDigit = false)
    (number : Nat) : char ∉ number.repr.toList := by
  intro member
  rw [Nat.toList_repr] at member
  have digit := Nat.isDigit_of_mem_toDigits (by decide) (by decide) member
  rw [mark] at digit
  cases digit

theorem dropWhile_isBlank_of_solid {chars : List Char}
    (solid : ∀ char ∈ chars, isBlank char = false) :
    chars.dropWhile isBlank = chars := by
  cases chars with
  | nil => rfl
  | cons char rest => simp [solid char List.mem_cons_self]

theorem trim_of_isWord {text : String} (word : IsWord text) :
    trim text = text := by
  have reversed : ∀ char ∈ text.toList.reverse, isBlank char = false := by
    intro char member
    exact word.solid char (List.mem_reverse.1 member)
  simp [trim, trimStartChars, trimEndChars,
    dropWhile_isBlank_of_solid word.solid, dropWhile_isBlank_of_solid reversed]

end Text

/-- A text that denotes a number is one word. -/
theorem Numeral.Denotes.isWord {text : String} {number : Nat}
    (denotes : Numeral.Denotes text number) : Text.IsWord text where
  filled := by
    rcases denotes with ⟨digits, written, filled, -, -⟩
    rintro rfl
    rcases written with same | signed
    · exact filled same.symm
    · cases signed
  solid := by
    intro char member
    by_contra solid
    have noDigit : char.isDigit = false := by
      by_contra digit
      exact solid (Text.isBlank_eq_false_of_isDigit (by simpa using digit))
    refine denotes.not_mem noDigit ?_ member
    rintro rfl
    exact solid (by decide)

namespace SingleValue

/-- A file with a number on its line is read as that number. -/
theorem read_repr (number : Counter) :
    read ⟨[number.toNat.repr], none⟩ = .ok number := by
  have word := Text.isWord_repr number.toNat
  have different : number.toNat.repr ≠ "max" := by
    intro same
    have digits : 'm' ∉ number.toNat.repr.toList :=
      Text.not_mem_repr (by decide) number.toNat
    simp [same] at digits
  simp [read, firstLine, Lines.first, Except.map, Except.mapError,
    Text.trim_of_isWord word, ofText, different, bind, Except.bind]

/-- A file with a number that fits is read as that number. -/
theorem read_repr_of_lt {number : Nat} (small : number < UInt64.size) :
    read ⟨[number.repr], none⟩ = .ok (UInt64.ofNat number) := by
  have same : (UInt64.ofNat number).toNat = number :=
    UInt64.toNat_ofNat_of_lt' small
  have told := read_repr (UInt64.ofNat number)
  rwa [same] at told

/-- A file with the word for no limit is read as the largest counter. -/
theorem read_max : read ⟨["max"], none⟩ = .ok Counter.largest := by
  rfl

end SingleValue

end CgroupMeter
