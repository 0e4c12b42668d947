import CgroupMeter.Path

/-!
# What the operating system refuses

An operation on the host's files fails for one of a few causes.  Opening a
file and reading its lines fail separately, because a directory can be opened
but not read, and because the text of a file is only checked line by line.
-/

namespace CgroupMeter

/-- Why the operating system refuses an operation on a path. -/
inductive OsError where
  /-- No entry has that name. -/
  | notFound
  /-- There is an entry of that name already. -/
  | alreadyExists
  /-- A name in the middle of the path is no directory. -/
  | notADirectory
  /-- The operation needs a file and the path leads to a directory. -/
  | isADirectory
  /-- A name or the whole path is too long. -/
  | nameTooLong
  /-- The entry is in use. -/
  | busy
  /-- The path holds a NUL character, which no name can hold. -/
  | nulInPath
  /-- Any other cause, with its wording. -/
  | other (text : String)
  deriving DecidableEq

/-- The wording of a refusal. -/
def OsError.message : OsError → String
  | .notFound => "No such file or directory (os error 2)"
  | .alreadyExists => "File exists (os error 17)"
  | .notADirectory => "Not a directory (os error 20)"
  | .isADirectory => "Is a directory (os error 21)"
  | .nameTooLong => "File name too long (os error 36)"
  | .busy => "Device or resource busy (os error 16)"
  | .nulInPath => "file name contained an unexpected NUL byte"
  | .other text => text

/-- A file that could not be opened. -/
structure OpenError where
  path : Path
  cause : OsError
  deriving DecidableEq

namespace OpenError

/-- The wording of a failed opening. -/
def message (error : OpenError) : String :=
  s!"failed to open file `{error.path.text}`: {error.cause.message}"

/-- The file does not exist. -/
def isNotFound (error : OpenError) : Bool :=
  error.cause == .notFound

end OpenError

/-- Why reading the next line of an open file fails. -/
inductive ReadFault where
  | notUtf8
  | refused (cause : OsError)
  deriving DecidableEq

/-- The wording of a read fault. -/
def ReadFault.message : ReadFault → String
  | .notUtf8 => "stream did not contain valid UTF-8"
  | .refused cause => cause.message

end CgroupMeter
