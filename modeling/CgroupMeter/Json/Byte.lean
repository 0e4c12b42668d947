import CgroupMeter.Decimal.Digits

/-!
# The bytes of JSON

Names for the bytes that the grammar of JSON gives a meaning, and the
hexadecimal digits of an escaped character.
-/

namespace CgroupMeter.Json.Byte

def backspace : UInt8 := 0x08
def tab : UInt8 := 0x09
def lineFeed : UInt8 := 0x0A
def formFeed : UInt8 := 0x0C
def carriageReturn : UInt8 := 0x0D
def space : UInt8 := 0x20
def quote : UInt8 := 0x22
def plus : UInt8 := 0x2B
def comma : UInt8 := 0x2C
def minus : UInt8 := 0x2D
def point : UInt8 := 0x2E
def slash : UInt8 := 0x2F
def colon : UInt8 := 0x3A
def upperE : UInt8 := 0x45
def openBracket : UInt8 := 0x5B
def backslash : UInt8 := 0x5C
def closeBracket : UInt8 := 0x5D
def lowerB : UInt8 := 0x62
def lowerE : UInt8 := 0x65
def lowerF : UInt8 := 0x66
def lowerN : UInt8 := 0x6E
def lowerR : UInt8 := 0x72
def lowerT : UInt8 := 0x74
def lowerU : UInt8 := 0x75
def openBrace : UInt8 := 0x7B
def closeBrace : UInt8 := 0x7D

/-- The bytes that are escaped by a letter, each with its letter. -/
def letterEscapes : List (UInt8 × UInt8) :=
  [(quote, quote), (backslash, backslash), (backspace, lowerB),
    (formFeed, lowerF), (lineFeed, lowerN), (carriageReturn, lowerR),
    (tab, lowerT)]

/-- The letter that escapes a byte. -/
def escapeLetter? (byte : UInt8) : Option UInt8 :=
  letterEscapes.lookup byte

/-- The byte that a letter after a backslash stands for. -/
def escapedByte? (letter : UInt8) : Option UInt8 :=
  if letter = slash then some slash
  else (letterEscapes.find? fun escape => escape.2 == letter).map Prod.fst

/-- A byte that may stand between the parts of a value. -/
def isBlank (byte : UInt8) : Bool :=
  byte == space || byte == lineFeed || byte == tab || byte == carriageReturn

/-- A byte that a string only holds escaped. -/
def isControl (byte : UInt8) : Bool :=
  byte < space

/-- The bytes of a text of ASCII characters. -/
def ofAscii (text : String) : List UInt8 :=
  text.toList.map fun char => UInt8.ofNat char.toNat

/-- The byte that writes a hexadecimal digit. -/
def hexByte (digit : Nat) : UInt8 :=
  if digit < 10 then UInt8.ofNat (0x30 + digit)
  else UInt8.ofNat (0x61 + (digit - 10))

/-- The hexadecimal digit that a byte writes. -/
def hexOfByte? (byte : UInt8) : Option Nat :=
  let code := byte.toNat
  if 0x30 ≤ code ∧ code ≤ 0x39 then some (code - 0x30)
  else if 0x41 ≤ code ∧ code ≤ 0x46 then some (code - 0x41 + 10)
  else if 0x61 ≤ code ∧ code ≤ 0x66 then some (code - 0x61 + 10)
  else none

/-- The number that four hexadecimal digits write. -/
def hexOfBytes? (first second third fourth : UInt8) : Option Nat := do
  let a ← hexOfByte? first
  let b ← hexOfByte? second
  let c ← hexOfByte? third
  let d ← hexOfByte? fourth
  return a * 4096 + b * 256 + c * 16 + d

end CgroupMeter.Json.Byte
