import CgroupMeter.Counter
import CgroupMeter.Stat.Error
import CgroupMeter.Text.Blank
import CgroupMeter.Text.Split

/-!
# Lists of CPUs

A list of CPUs such as `0-4,8` has single CPUs and ascending ranges.  A single
CPU counts one, and a range counts the difference of its ends.
-/

namespace CgroupMeter.Cpuset

/-- The count of one part of a list. -/
def tokenCount (token : String) : Option Nat :=
  match Text.cut '-' token with
  | none => (Numeral.readUInt64 token).toOption.map fun _ => 1
  | some (low, high) => do
      let low ← (Numeral.readUInt64 low).toOption
      let high ← (Numeral.readUInt64 high).toOption
      if low < high then some (high.toNat - low.toNat) else none

/-- The count of the parts of a list, which is refused for the first part that
has none. -/
def countTokens (input : String) : List String → Except StatError Nat
  | [] => .ok 0
  | token :: rest =>
      match tokenCount token with
      | none => .error (.invalidCpuset token input)
      | some count => (countTokens input rest).map (count + ·)

/-- The count of a list of CPUs.  A count that no counter can hold wraps around,
as it does in a program built for release; one built for debugging stops
there. -/
def count (text : String) : Except StatError Counter :=
  let trimmed := Text.trim text
  (countTokens trimmed (Text.split ',' trimmed)).map UInt64.ofNat

end CgroupMeter.Cpuset
