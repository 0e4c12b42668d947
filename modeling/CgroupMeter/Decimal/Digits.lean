/-!
# Decimal digits

The digits of a natural number, the most significant first, and the number
that digits denote.  Reading the digits of a number back gives the number.
-/

namespace CgroupMeter.Decimal

/-- A decimal digit. -/
abbrev Digit := Fin 10

/-- The digits of a number, in front of other digits. -/
def digitsOnto (number : Nat) (after : List Digit) : List Digit :=
  if small : number < 10 then ⟨number, small⟩ :: after
  else
    digitsOnto (number / 10) (⟨number % 10, Nat.mod_lt _ (by decide)⟩ :: after)
  termination_by number
  decreasing_by omega

/-- The digits of a number.  Zero has one digit. -/
def digits (number : Nat) : List Digit :=
  digitsOnto number []

/-- The number that digits denote after the digits of another number. -/
def valueFrom (start : Nat) (digits : List Digit) : Nat :=
  digits.foldl (fun number digit => number * 10 + digit.val) start

/-- The number that digits denote. -/
def value (digits : List Digit) : Nat :=
  valueFrom 0 digits

/-- The byte that writes a digit. -/
def digitByte (digit : Digit) : UInt8 :=
  UInt8.ofNat (0x30 + digit.val)

/-- The digit that a byte writes. -/
def digitOfByte? (byte : UInt8) : Option Digit :=
  if range : 0x30 ≤ byte.toNat ∧ byte.toNat ≤ 0x39 then
    some ⟨byte.toNat - 0x30, by omega⟩
  else none

@[simp]
theorem digitOfByte?_digitByte (digit : Digit) :
    digitOfByte? (digitByte digit) = some digit := by
  revert digit
  decide

theorem valueFrom_digitsOnto (number : Nat) (after : List Digit) :
    valueFrom 0 (digitsOnto number after) = valueFrom number after := by
  induction number, after using digitsOnto.induct with
  | case1 number after small =>
      rw [digitsOnto, dif_pos small]
      simp [valueFrom]
  | case2 number after large ih =>
      rw [digitsOnto, dif_neg large, ih]
      simp only [valueFrom, List.foldl_cons]
      congr 1
      omega

/-- A number is read back from its digits. -/
@[simp]
theorem value_digits (number : Nat) : value (digits number) = number := by
  rw [value, digits, valueFrom_digitsOnto]
  rfl

theorem digitsOnto_ne_nil (number : Nat) (after : List Digit) :
    digitsOnto number after ≠ [] := by
  induction number, after using digitsOnto.induct with
  | case1 number after small =>
      rw [digitsOnto, dif_pos small]
      simp
  | case2 number after large ih =>
      rw [digitsOnto, dif_neg large]
      exact ih

/-- Every number has a digit. -/
theorem digits_ne_nil (number : Nat) : digits number ≠ [] :=
  digitsOnto_ne_nil number []

end CgroupMeter.Decimal
