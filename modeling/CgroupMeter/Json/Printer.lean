import CgroupMeter.Json.Basic
import CgroupMeter.Json.Byte
import CgroupMeter.Text.Lines

/-!
# Writing JSON

A value is written without blanks.  In a string only quotes, backslashes and
control characters are escaped, so a written value holds no line feed.

Writing a value may have to stop at a part that has no JSON form.  What has
been written up to there is a value cut off: for each object around the part,
the members before the one that was begun, and the name of that one.
-/

namespace CgroupMeter.Json

open Byte

/-- The bytes that write one byte of a string. -/
def escapeByte (byte : UInt8) : List UInt8 :=
  match escapeLetter? byte with
  | some letter => [backslash, letter]
  | none =>
      if isControl byte then
        [backslash, lowerU, hexByte 0, hexByte 0, hexByte (byte.toNat / 16),
          hexByte (byte.toNat % 16)]
      else [byte]

/-- The bytes that write a string. -/
def printString (text : String) : List UInt8 :=
  quote :: (Text.toBytes text).flatMap escapeByte ++ [quote]

/-- The bytes that write a natural number. -/
def printNat (number : Nat) : List UInt8 :=
  (Decimal.digits number).map Decimal.digitByte

/-- The bytes that write digits after a point.  No digits have no point. -/
def printFraction : List Decimal.Digit → List UInt8
  | [] => []
  | digits => point :: digits.map Decimal.digitByte

/-- The bytes that write an exponent with its sign. -/
def printExponent : Option Int → List UInt8
  | none => []
  | some exponent =>
      lowerE :: (if exponent < 0 then minus else plus) :: printNat exponent.natAbs

/-- The bytes that write a number. -/
def printNumber (number : JsonNumber) : List UInt8 :=
  (if number.negative then [minus] else []) ++ printNat number.whole ++
    printFraction number.fraction ++ printExponent number.exponent

/-- Join what writes the parts of a value by commas. -/
def commaSeparated : List (List UInt8) → List UInt8
  | [] => []
  | [part] => part
  | part :: rest => part ++ comma :: commaSeparated rest

mutual

/-- The bytes that write a value. -/
def print : WrittenJson → List UInt8
  | .null => ofAscii "null"
  | .bool true => ofAscii "true"
  | .bool false => ofAscii "false"
  | .number written => printNumber written
  | .string text => printString text
  | .array items =>
      openBracket :: commaSeparated (printItems items) ++ [closeBracket]
  | .object members =>
      openBrace :: commaSeparated (printMembers members) ++ [closeBrace]

/-- The bytes that write each item of an array. -/
def printItems : List WrittenJson → List (List UInt8)
  | [] => []
  | item :: rest => print item :: printItems rest

/-- The bytes that write each member of an object. -/
def printMembers : List (String × WrittenJson) → List (List UInt8)
  | [] => []
  | (name, value) :: rest =>
      (printString name ++ colon :: print value) :: printMembers rest

end

/-! ## Values cut off -/

/-- One object around the part where writing stopped. -/
structure CutObject where
  before : List (String × WrittenJson)
  name : String

/-- A value cut off: the objects around the part where writing stopped,
outermost first. -/
abbrev Cut := List CutObject

/-- Put a value or a cut into an object, after the members before it. -/
def objectAfter (before : List (String × WrittenJson)) :
    List (String × Except Cut WrittenJson) → Except Cut WrittenJson
  | [] => .ok (.object before)
  | (name, .error cut) :: _ => .error (⟨before, name⟩ :: cut)
  | (name, .ok value) :: rest => objectAfter (before ++ [(name, value)]) rest

/-- The object with the given members, cut off at the first member that is. -/
def objectOf (members : List (String × Except Cut WrittenJson)) :
    Except Cut WrittenJson :=
  objectAfter [] members

/-- The bytes written of a value that was cut off. -/
def printCut : Cut → List UInt8
  | [] => []
  | level :: inner =>
      openBrace ::
        commaSeparated (printMembers level.before ++
          [printString level.name ++ colon :: printCut inner])

/-- The bytes written of a value, as far as it goes. -/
def printUpTo : Except Cut WrittenJson → List UInt8
  | .ok value => print value
  | .error cut => printCut cut

end CgroupMeter.Json
