import CgroupMeter.Host.Inquiry
import CgroupMeter.Text.Numeral

/-!
# What is wrong with a stat file

The content of a stat file is refused for a fault of reading or for what a
line says.  Lines are numbered from one over the whole file, blank lines
included.
-/

namespace CgroupMeter

/-- What a stat file says that its format does not allow. -/
inductive StatError where
  /-- A known key stands on a second line. -/
  | duplicateField (field : String) (line : Nat)
  /-- The value of a known key is no number. -/
  | invalidKeyValue (key value : String) (line : Nat) (cause : NumeralError)
  /-- A value without a key is no number. -/
  | invalidValue (value : String) (line : Nat) (cause : NumeralError)
  /-- A line does not have the parts it needs. -/
  | malformedLine (line : Nat) (content : String)
  /-- A part of a list of CPUs is neither a number nor an ascending range. -/
  | invalidCpuset (token input : String)
  deriving DecidableEq

/-- The wording of a stat error. -/
def StatError.message : StatError → String
  | .duplicateField field line => s!"duplicate field '{field}' at line {line}"
  | .invalidKeyValue key value line cause =>
      s!"invalid value for '{key}' at line {line}: '{value}': {cause.message}"
  | .invalidValue value line cause =>
      s!"invalid value at line {line}: '{value}': {cause.message}"
  | .malformedLine line content => s!"malformed line {line}: '{content}'"
  | .invalidCpuset token input => s!"invalid cpuset token '{token}' in '{input}'"

/-- Why the content of a stat file is refused. -/
inductive ContentError where
  | read (fault : ReadFault)
  | parse (error : StatError)
  deriving DecidableEq

/-- The wording of a refused content. -/
def ContentError.message : ContentError → String
  | .read fault => fault.message
  | .parse error => error.message

namespace Lines

/-- The value that all lines together give: it is refused for what a line
says, or else for the fault that ends the lines. -/
def complete {α : Type} (lines : Lines) (value : Except StatError α) :
    Except ContentError α :=
  match value with
  | .error error => .error (.parse error)
  | .ok value => (lines.finish value).mapError .read

end Lines

/-- What numbered lines give one after the other, in order, refused for the
first line that is refused. -/
def collectLines {α : Type} (readLine : Nat → String → Except StatError (List α)) :
    Nat → List String → Except StatError (List α)
  | _, [] => .ok []
  | number, text :: rest => do
      let items ← readLine number text
      let others ← collectLines readLine (number + 1) rest
      return items ++ others

end CgroupMeter
