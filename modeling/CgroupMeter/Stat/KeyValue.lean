import CgroupMeter.Counter
import CgroupMeter.Stat.Error
import CgroupMeter.Text.Blank

/-!
# Key/value stat files

Files such as `cpu.stat` and `memory.stat` hold one key and its value on a
line.  A reader knows some of the keys, and has a handler for each.  A line is
relevant to it when it has at least two words and the first is a known key; all
other lines are skipped.  The reader starts from an initial value, and the
handler of each relevant line takes the line's value over into it.  Unless
repeats are allowed, a known key may stand on one line only.
-/

namespace CgroupMeter

/-- A kind of key/value file. -/
structure KeyValueFormat (α : Type) where
  /-- What a file without a relevant line is read as. -/
  initial : α
  /-- How the value of each known key is taken over. -/
  handlers : List (String × (α → Counter → α))
  /-- Each known key has one handler. -/
  distinct : (handlers.map Prod.fst).Nodup
  /-- Known keys may stand on more than one line. -/
  allowsRepeats : Bool

namespace KeyValueFormat

variable {α : Type}

/-- The keys that a reader knows. -/
def keys (format : KeyValueFormat α) : List String :=
  format.handlers.map Prod.fst

/-- The key and the value on a relevant line, and the handler of the key. -/
def relevant? (format : KeyValueFormat α) (text : String) :
    Option (String × String × (α → Counter → α)) :=
  match Text.words text with
  | key :: value :: _ =>
      (format.handlers.lookup key).map fun handler => (key, value, handler)
  | _ => none

/-- Take over the values of numbered lines, after those of the keys seen
before. -/
def scan (format : KeyValueFormat α) :
    α → List String → Nat → List String → Except StatError α
  | stat, _, _, [] => .ok stat
  | stat, seen, number, text :: rest =>
      match format.relevant? text with
      | none => scan format stat seen (number + 1) rest
      | some (key, value, handler) =>
          match Numeral.readUInt64 value with
          | .error cause => .error (.invalidKeyValue key value number cause)
          | .ok counter =>
              if !format.allowsRepeats && seen.contains key then
                .error (.duplicateField key number)
              else
                scan format (handler stat counter) (key :: seen) (number + 1)
                  rest

/-- Read the texts of a key/value file. -/
def readTexts (format : KeyValueFormat α) (texts : List String) :
    Except StatError α :=
  format.scan format.initial [] 1 texts

/-- Read a key/value file. -/
def read (format : KeyValueFormat α) (lines : Lines) :
    Except ContentError α :=
  lines.complete (format.readTexts lines.texts)

end KeyValueFormat

end CgroupMeter
