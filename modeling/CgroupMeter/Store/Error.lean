import CgroupMeter.Host.Error
import CgroupMeter.Json.Time

/-!
# Why a sample store fails

A store fails when it cannot be read or written, or when a sample in it has no
form in its document.
-/

namespace CgroupMeter

/-- Why a sample store fails. -/
inductive StoreError where
  /-- The store cannot be read. -/
  | read (path : Path) (cause : OsError)
  /-- The store cannot be written. -/
  | write (path : Path) (cause : OsError)
  /-- A time in the store has no form in its document. -/
  | encode
  deriving DecidableEq

/-- The wording of a store's failure. -/
def StoreError.message : StoreError → String
  | .read path cause =>
      s!"failed to read sample store `{path.text}`: {cause.message}"
  | .write path cause =>
      s!"failed to write sample store `{path.text}`: {cause.message}"
  | .encode => s!"failed to encode sample store: {Time.unwritable}"

end CgroupMeter
