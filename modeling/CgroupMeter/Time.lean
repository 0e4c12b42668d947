/-!
# Points in time and durations

A point in time is a number of nanoseconds since the start of 1970, negative
before it.  A duration is a number of nanoseconds.  The time passed between
two points is a duration only when the later one is not before the earlier
one.
-/

namespace CgroupMeter

/-- A point in time. -/
structure Time where
  /-- Nanoseconds since the start of 1970. -/
  nanos : Int
  deriving DecidableEq, Inhabited

/-- The time between two points. -/
structure Duration where
  /-- The length in nanoseconds. -/
  nanos : Nat
  deriving DecidableEq, Inhabited

/-- Nanoseconds in a second. -/
def nanosPerSecond : Nat := 1000000000

namespace Time

/-- The time passed from an earlier point to a later one, if it is one. -/
def since? (later earlier : Time) : Option Duration :=
  if earlier.nanos ≤ later.nanos then
    some ⟨(later.nanos - earlier.nanos).toNat⟩
  else none

theorem since?_eq_some_iff {later earlier : Time} {age : Duration} :
    since? later earlier = some age ↔
      later.nanos = earlier.nanos + (age.nanos : Int) := by
  obtain ⟨age⟩ := age
  unfold since?
  split
  · simp only [Option.some.injEq, Duration.mk.injEq]
    omega
  · simp only [reduceCtorEq, false_iff]
    omega

end Time

namespace Duration

/-- A duration of whole seconds and nanoseconds. -/
def ofSeconds (seconds nanos : Nat) : Duration :=
  ⟨seconds * nanosPerSecond + nanos⟩

/-- The duration is no time at all. -/
def isZero (duration : Duration) : Bool := duration.nanos == 0

/-- The digits of a fraction, without the zeros at its end. -/
def fractionDigits (width fraction : Nat) : String :=
  let digits := if fraction = 0 then [] else Nat.toDigits 10 fraction
  let padded := List.replicate (width - digits.length) '0' ++ digits
  String.ofList (padded.reverse.dropWhile (· == '0')).reverse

/-- A number with a fraction and the name of its unit. -/
def withUnit (whole fraction width : Nat) (unit : String) : String :=
  let digits := fractionDigits width fraction
  if digits = "" then s!"{whole}{unit}" else s!"{whole}.{digits}{unit}"

/-- A duration as a report shows it, in the largest unit that it fills. -/
def text (duration : Duration) : String :=
  let nanos := duration.nanos
  if nanosPerSecond ≤ nanos then
    withUnit (nanos / nanosPerSecond) (nanos % nanosPerSecond) 9 "s"
  else if 1000000 ≤ nanos then
    withUnit (nanos / 1000000) (nanos % 1000000) 6 "ms"
  else if 1000 ≤ nanos then withUnit (nanos / 1000) (nanos % 1000) 3 "µs"
  else withUnit nanos 0 0 "ns"

end Duration

end CgroupMeter
