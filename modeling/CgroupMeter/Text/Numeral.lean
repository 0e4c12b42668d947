/-!
# Decimal numerals

An unsigned numeral is a non-empty sequence of ASCII digits after an optional
plus sign.  A numeral that is refused is refused for the first reason met from
the left: a character that is no digit, or the digit that takes the value to
the bound of its type.
-/

namespace CgroupMeter

/-- Why a text is not an unsigned numeral below a bound. -/
inductive NumeralError where
  /-- The text is empty. -/
  | empty
  /-- A character is no digit, or a sign stands alone. -/
  | invalidDigit
  /-- The value reaches the bound. -/
  | tooLarge
  deriving DecidableEq

/-- The wording of a numeral error. -/
def NumeralError.message : NumeralError → String
  | .empty => "cannot parse integer from empty string"
  | .invalidDigit => "invalid digit found in string"
  | .tooLarge => "number too large to fit in target type"

namespace Numeral

/-- The value of an ASCII digit. -/
def digitValue (char : Char) : Option Nat :=
  if char.isDigit then some (char.toNat - '0'.toNat) else none

/-- Reads digits after a value, refusing the first character that is no digit
or takes the value to the bound. -/
def readDigits (bound : Nat) : Nat → List Char → Except NumeralError Nat
  | value, [] => .ok value
  | value, char :: rest =>
      match digitValue char with
      | none => .error .invalidDigit
      | some digit =>
          if value * 10 + digit < bound then
            readDigits bound (value * 10 + digit) rest
          else
            .error .tooLarge

/-- The digits of an unsigned numeral: its plus sign is dropped if digits may
follow it. -/
def unsigned : List Char → List Char
  | '+' :: char :: rest => char :: rest
  | chars => chars

/-- Reads an unsigned numeral below a bound. -/
def readChars (bound : Nat) (chars : List Char) : Except NumeralError Nat :=
  match chars with
  | [] => .error .empty
  | _ => readDigits bound 0 (unsigned chars)

/-- Reads an unsigned numeral of 64 bits. -/
def readUInt64 (text : String) : Except NumeralError UInt64 :=
  (readChars UInt64.size text.toList).map UInt64.ofNat

/-- Reads an unsigned numeral of 32 bits. -/
def readUInt32 (text : String) : Except NumeralError UInt32 :=
  (readChars UInt32.size text.toList).map UInt32.ofNat

/-- The number that digits denote after a value, whatever its size. -/
def valueAfter (value : Nat) (digits : List Char) : Nat :=
  digits.foldl (fun number char => number * 10 + (char.toNat - '0'.toNat)) value

/-- Reading digits yields the number that they denote. -/
theorem readDigits_eq_ok {bound value result : Nat} {chars : List Char}
    (read : readDigits bound value chars = .ok result) :
    chars.all Char.isDigit = true ∧ result = valueAfter value chars := by
  induction chars generalizing value with
  | nil =>
      simp only [readDigits, Except.ok.injEq] at read
      exact ⟨rfl, read.symm⟩
  | cons char rest ih =>
      by_cases digit : char.isDigit
      · simp only [readDigits, digitValue, digit, if_true] at read
        split at read
        · have read_rest := ih read
          exact ⟨by simp [digit, read_rest.1], read_rest.2⟩
        · simp at read
      · simp [readDigits, digitValue, digit] at read

end Numeral

end CgroupMeter
