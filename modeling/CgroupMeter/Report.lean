/-!
# Reports

What a program says about its own work, beside its output: a text and how
severe it is.  A reader of the reports chooses the least severe level that is
shown.
-/

namespace CgroupMeter

/-- How severe a report is. -/
inductive Level where
  | error
  | warn
  | info
  | debug
  | trace
  deriving DecidableEq

namespace Level

/-- The name of a level. -/
def name : Level → String
  | .error => "ERROR"
  | .warn => "WARN"
  | .info => "INFO"
  | .debug => "DEBUG"
  | .trace => "TRACE"

/-- The place of a level among the levels, the most severe first. -/
def rank : Level → Nat
  | .error => 0
  | .warn => 1
  | .info => 2
  | .debug => 3
  | .trace => 4

/-- A report of one level is shown to a reader who asked for another. -/
def shownAt (level limit : Level) : Bool :=
  level.rank ≤ limit.rank

end Level

/-- A text about the work of a program. -/
structure Report where
  /-- How severe the report is. -/
  level : Level
  /-- What it says. -/
  text : String
  deriving DecidableEq

end CgroupMeter
