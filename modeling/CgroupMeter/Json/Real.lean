import CgroupMeter.Decimal.Shortest
import CgroupMeter.Json.Basic

/-!
# Floating-point numbers in JSON

A finite number is written with the shortest decimal that reads back as it:
with a point and at least one digit after it from 1e-5 up to 1e16, and with an
exponent outside that range.  Infinities and values that are no numbers have
no JSON number and are written as `null`.

A number is read by a fast rule whose result is not always the nearest
floating-point number.  As many digits as make up a significand of 64 bits are
taken before the point and again after it, and the significand is then
multiplied or divided by a power of ten.
-/

namespace CgroupMeter

/-! ## Writing -/

namespace JsonNumber

/-- The sign of a floating-point number is a minus, also that of a zero. -/
def signBit (number : Float) : Bool :=
  number.toBits >>> 63 = 1

/-- The powers of ten of a first digit that is written without an exponent. -/
def isPositional (leading : Int) : Bool :=
  -5 ≤ leading && leading < 16

/-- Digits with a point among them: after as many of them as are said, or
before that many zeros in front of them. -/
def positional (negative : Bool) (digits : List Decimal.Digit)
    (beforePoint : Int) : JsonNumber :=
  if beforePoint ≤ 0 then
    ⟨negative, 0, List.replicate (-beforePoint).toNat 0 ++ digits, none⟩
  else if (digits.length : Int) ≤ beforePoint then
    let zeros := (beforePoint - digits.length).toNat
    ⟨negative, Decimal.value (digits ++ List.replicate zeros 0), [0], none⟩
  else
    ⟨negative, Decimal.value (digits.take beforePoint.toNat),
      digits.drop beforePoint.toNat, none⟩

/-- Digits with a point after the first and an exponent. -/
def scientific (negative : Bool) (digits : List Decimal.Digit)
    (leading : Int) : JsonNumber :=
  ⟨negative, Decimal.value (digits.take 1), digits.drop 1, some leading⟩

/-- The number that writes a decimal. -/
def ofDecimal (negative : Bool) (decimal : Decimal) : JsonNumber :=
  let digits := Decimal.digits decimal.coefficient
  let beforePoint := (digits.length : Int) + decimal.exponent
  if isPositional (beforePoint - 1) then positional negative digits beforePoint
  else scientific negative digits (beforePoint - 1)

/-- The number that writes a floating-point number, if it is finite. -/
def ofFloat? (number : Float) : Option JsonNumber := do
  let binary ← Decimal.Binary.ofBits? number.toBits
  if binary.significand = 0 then return ⟨signBit number, 0, [0], none⟩
  else return ofDecimal (signBit number) binary.shortest

/-! ## Reading -/

/-- Take digits into a significand while it stays below the bound of 64 bits.
Yields the significand and how many digits it took. -/
def gather : Nat → List Decimal.Digit → Nat × Nat
  | significand, [] => (significand, 0)
  | significand, digit :: rest =>
      let next := significand * 10 + digit.val
      if next < UInt64.size then
        let (found, taken) := gather next rest
        (found, taken + 1)
      else (significand, 0)

/-- The largest power of ten that is a floating-point number. -/
def largestPower : Nat := 308

/-- A power of ten. -/
def powerOfTen (exponent : Nat) : Float :=
  Float.ofScientific 1 false exponent

/-- A number times a power of ten, divided in steps that each have a power of
ten.  The first argument bounds the steps. -/
def scaleByTen : Nat → Float → Int → Option Float
  | 0, _, _ => none
  | steps + 1, number, exponent =>
      if exponent.natAbs ≤ largestPower then
        if 0 ≤ exponent then
          let scaled := number * powerOfTen exponent.natAbs
          if scaled.isInf then none else some scaled
        else some (number / powerOfTen exponent.natAbs)
      else if number == 0 then some number
      else if 0 ≤ exponent then none
      else
        scaleByTen steps (number / powerOfTen largestPower)
          (exponent + largestPower)

/-- The bound of exponents on both sides: they are signed numbers of 32 bits. -/
def exponentBound : Int := 2147483648

/-- The nearest exponent in the range of 32 bits. -/
def clampExponent (exponent : Int) : Int :=
  max (-exponentBound) (min (exponentBound - 1) exponent)

/-- The magnitude of a significand times a power of ten and another power of
ten that was written as an exponent. -/
def magnitude? (significand : Nat) (shift : Int) (written : Option Int) :
    Option Float :=
  let exponent := written.getD 0
  if exponentBound ≤ exponent.natAbs then
    if significand = 0 || exponent < 0 then some 0 else none
  else scaleByTen 4 (Float.ofNat significand) (clampExponent (shift + exponent))

/-- The floating-point number that a number is read as, unless it is too
large. -/
def toFloat? (number : JsonNumber) : Option Float :=
  let digits := Decimal.digits number.whole
  let (front, taken) := gather 0 digits
  let (significand, places) := gather front number.fraction
  let shift := ((digits.length - taken : Nat) : Int) - places
  (magnitude? significand shift number.exponent).map fun found =>
    if number.negative then -found else found

end JsonNumber

namespace Json

/-- A floating-point number, or `null` where there is no number for it. -/
def ofFloat {Content : Type} (number : Float) : Json Content :=
  match JsonNumber.ofFloat? number with
  | some written => .number written
  | none => .null

end Json

/-- A floating-point number. -/
def ReadJson.float? : ReadJson → Option Float
  | .number number => number.toFloat?
  | _ => none

end CgroupMeter
