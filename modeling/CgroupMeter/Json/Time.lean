import CgroupMeter.Json.Basic
import CgroupMeter.Json.Printer
import CgroupMeter.Time

/-!
# Points in time in JSON

A point in time is a record of whole seconds since the start of 1970 and the
nanoseconds that follow.  A time before that has no JSON form, and reading
refuses times that are out of the range of the clock.
-/

namespace CgroupMeter.Time

/-- The name of the seconds. -/
def secondsField : String := "secs_since_epoch"

/-- The name of the nanoseconds. -/
def nanosField : String := "nanos_since_epoch"

/-- The first second that is out of the range of the clock, which counts them
in signed numbers of 64 bits. -/
def secondBound : Nat := 9223372036854775808

/-- Why a time before the start of 1970 cannot be written. -/
def unwritable : String := "SystemTime must be later than UNIX_EPOCH"

/-- Write a time. -/
def toJson (time : Time) : Except Json.Cut WrittenJson :=
  if time.nanos < 0 then .error []
  else
    let nanos := time.nanos.toNat
    .ok (.object [
      (secondsField, Json.ofNat (nanos / nanosPerSecond)),
      (nanosField, Json.ofNat (nanos % nanosPerSecond))])

/-- Read a time. -/
def ofJson? (value : ReadJson) : Option Time := do
  match ← value.exactFields? [secondsField, nanosField] with
  | [seconds, nanos] =>
      let seconds ← seconds.uint64?
      let nanos ← nanos.uint32?
      if seconds.toNat + nanos.toNat / nanosPerSecond < secondBound then
        return ⟨(seconds.toNat * nanosPerSecond + nanos.toNat : Nat)⟩
      else none
  | _ => none

end CgroupMeter.Time
