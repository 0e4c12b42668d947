import CgroupMeter.Text.Blank
import CgroupMeter.Text.Split

/-!
# Lines of the mount table

A line of the mount table names a device, the place where it is mounted, the
type of its file system, and its options, separated by blanks.  Further
columns are ignored.
-/

namespace CgroupMeter

/-- One mounted file system. -/
structure MountEntry where
  /-- The mounted device, or the name of a source that is no device. -/
  device : String
  /-- Where it is mounted, as the host sees it. -/
  mountPoint : String
  /-- The type of the file system. -/
  fsType : String
  /-- The options, with commas between them. -/
  options : String
  deriving DecidableEq

/-- The columns of a line. -/
inductive MountField where
  | device
  | mountPoint
  | fsType
  | options
  deriving DecidableEq

/-- The name of a column. -/
def MountField.name : MountField → String
  | .device => "device"
  | .mountPoint => "mount_point"
  | .fsType => "fs_type"
  | .options => "options"

/-- A line that lacks a column. -/
structure MissingField where
  /-- The first column that is missing. -/
  field : MountField
  /-- The line, without the blanks at its end. -/
  line : String
  deriving DecidableEq

/-- The wording of a missing column. -/
def MissingField.message (error : MissingField) : String :=
  s!"missing `{error.field.name}` in line: `{error.line}`"

namespace MountEntry

/-- The mounted file system that a line tells. -/
def ofLine (text : String) : Except MissingField MountEntry :=
  let missing (field : MountField) : Except MissingField MountEntry :=
    .error ⟨field, Text.trimEnd text⟩
  match Text.words text with
  | [] => missing .device
  | [_] => missing .mountPoint
  | [_, _] => missing .fsType
  | [_, _, _] => missing .options
  | device :: mountPoint :: fsType :: options :: _ =>
      .ok ⟨device, mountPoint, fsType, options⟩

/-- The options one by one. -/
def optionList (entry : MountEntry) : List String :=
  (Text.split ',' entry.options).filter fun option => option != ""

end MountEntry

end CgroupMeter
