import CgroupMeter.Counter
import CgroupMeter.Stat.Error
import CgroupMeter.Text.Blank
import CgroupMeter.Text.Split

/-!
# Block I/O accounting files

The `blkio` controller writes one file for bytes and one for operations, with
a line for each device and operation.  The unified hierarchy writes one
`io.stat` with a line for each device and a `key=value` word for each count.
Both become lists of entries; totals are left to the consumer.
-/

namespace CgroupMeter

/-- The count of one operation on one device. -/
structure BlkioEntry where
  major : Counter
  minor : Counter
  operation : String
  value : Counter
  deriving DecidableEq

/-- The block I/O counts of a group. -/
structure BlkioStat where
  serviceBytes : List BlkioEntry
  serviced : List BlkioEntry
  deriving DecidableEq, Inhabited

namespace BlkioStat

/-- The operation name of reads. -/
def readOperation : String := "Read"

/-- The operation name of writes. -/
def writeOperation : String := "Write"

/-- The major and minor number of a device, written `major:minor`. -/
def device? (text : String) : Option (Counter × Counter) := do
  let (major, minor) ← Text.cut ':' text
  return (← (Numeral.readUInt64 major).toOption,
    ← (Numeral.readUInt64 minor).toOption)

/-! ## Files of the `blkio` controller -/

/-- The entry on a line of a `blkio` file.  Blank lines and lines of totals
have none. -/
def controllerLine (number : Nat) (text : String) :
    Except StatError (List BlkioEntry) :=
  match Text.words text with
  | [] => .ok []
  | first :: rest =>
      if first = "Total" then .ok []
      else
        match rest with
        | [operation, value] =>
            match device? first with
            | none => .error (.malformedLine number (Text.trimEnd text))
            | some (major, minor) =>
                match Numeral.readUInt64 value with
                | .error cause => .error (.invalidValue value number cause)
                | .ok count => .ok [⟨major, minor, operation, count⟩]
        | _ => .error (.malformedLine number (Text.trimEnd text))

/-- Read a file of the `blkio` controller. -/
def readController (lines : Lines) : Except ContentError (List BlkioEntry) :=
  lines.complete (collectLines controllerLine 1 lines.texts)

/-! ## The file of the unified hierarchy -/

/-- What a count of `io.stat` counts. -/
inductive Quantity where
  | serviceBytes
  | serviced
  deriving DecidableEq

/-- What the known keys of `io.stat` count. -/
def keyMeaning (key : String) : Option (Quantity × String) :=
  match key with
  | "rbytes" => some (.serviceBytes, readOperation)
  | "wbytes" => some (.serviceBytes, writeOperation)
  | "rios" => some (.serviced, readOperation)
  | "wios" => some (.serviced, writeOperation)
  | _ => none

/-- The count in a word of `io.stat`.  A word without `=` or with an unknown
key has none. -/
def unifiedWord (number : Nat) (major minor : Counter) (word : String) :
    Except StatError (List (Quantity × BlkioEntry)) :=
  match Text.cut '=' word with
  | none => .ok []
  | some (key, value) =>
      match keyMeaning key with
      | none => .ok []
      | some (quantity, operation) =>
          match Numeral.readUInt64 value with
          | .error cause => .error (.invalidKeyValue key value number cause)
          | .ok count => .ok [(quantity, ⟨major, minor, operation, count⟩)]

/-- The counts on a line of `io.stat`.  A line that does not start with a
device has none. -/
def unifiedLine (number : Nat) (text : String) :
    Except StatError (List (Quantity × BlkioEntry)) :=
  match Text.words text with
  | [] => .ok []
  | first :: rest =>
      match device? first with
      | none => .ok []
      | some (major, minor) =>
          (rest.mapM (unifiedWord number major minor)).map List.flatten

/-- The counts of one quantity, in order. -/
def entriesOf (quantity : Quantity) (counts : List (Quantity × BlkioEntry)) :
    List BlkioEntry :=
  (counts.filter fun count => count.1 == quantity).map Prod.snd

/-- Read the `io.stat` of the unified hierarchy. -/
def readUnified (lines : Lines) : Except ContentError BlkioStat := do
  let counts ← lines.complete (collectLines unifiedLine 1 lines.texts)
  return ⟨entriesOf .serviceBytes counts, entriesOf .serviced counts⟩

end BlkioStat

end CgroupMeter
