import CgroupMeter.Counter
import CgroupMeter.Stat.Error
import CgroupMeter.Text.Blank

/-!
# Files of one value

Many files of a group hold a single number on their first line.  The word
`max` stands for the largest counter, which means that there is no limit, and
a negative number counts zero.
-/

namespace CgroupMeter.SingleValue

/-- A minus sign with digits after it, and nothing else. -/
def isNegative (text : String) : Bool :=
  match text.toList with
  | '-' :: char :: rest => (char :: rest).all Char.isDigit
  | _ => false

/-- The value that a text stands for. -/
def ofText (text : String) : Except StatError Counter :=
  if text = "max" then .ok Counter.largest
  else
    match Numeral.readUInt64 text with
    | .ok value => .ok value
    | .error cause =>
        if isNegative text then .ok 0 else .error (.invalidValue text 1 cause)

/-- The first line, without blanks at its ends. -/
def firstLine (lines : Lines) : Except ReadFault String :=
  lines.first.map Text.trim

/-- Read a file of one value. -/
def read (lines : Lines) : Except ContentError Counter := do
  let text ← (firstLine lines).mapError ContentError.read
  (ofText text).mapError .parse

end CgroupMeter.SingleValue
