import CgroupMeter.Json.Basic
import CgroupMeter.Json.Byte
import CgroupMeter.Text.Lines

/-!
# Reading JSON

Each reader takes a part of a value from the front of bytes and yields what
follows it.  Blanks may stand around every part but not inside one.  Control
characters in strings, needless zeros in front of numbers and commas without a
value after them are refused.

A string is split into bytes and escaped characters first; whether they make
up valid text is decided apart from the grammar.
-/

namespace CgroupMeter.Json

open Byte

/-- Bytes without the blanks at their front. -/
def skipBlanks (bytes : List UInt8) : List UInt8 :=
  bytes.dropWhile isBlank

/-! ## Strings -/

/-- A part of a string. -/
inductive StringPart where
  /-- A byte that stands for itself or is escaped by a letter. -/
  | byte (value : UInt8)
  /-- A UTF-16 code unit, escaped by its number. -/
  | codeUnit (value : Nat)

/-- The parts of a string, and what follows its closing quote. -/
def readParts : List UInt8 → Option (List StringPart × List UInt8)
  | [] => none
  | byte :: rest =>
      if byte = quote then some ([], rest)
      else if byte = backslash then
        match rest with
        | [] => none
        | letter :: more =>
            if letter = lowerU then
              match more with
              | a :: b :: c :: d :: more => do
                  let unit ← hexOfBytes? a b c d
                  let (parts, after) ← readParts more
                  return (.codeUnit unit :: parts, after)
              | _ => none
            else do
              let value ← escapedByte? letter
              let (parts, after) ← readParts more
              return (.byte value :: parts, after)
      else if isControl byte then none
      else do
        let (parts, after) ← readParts rest
        return (.byte byte :: parts, after)

/-- The bytes of the character with a number. -/
def characterBytes (number : Nat) : List UInt8 :=
  Text.toBytes (String.singleton (Char.ofNat number))

/-- The bytes of the text that parts make up.  A surrogate is valid only in a
pair. -/
def partsBytes : List StringPart → Option (List UInt8)
  | [] => some []
  | .byte value :: rest => do
      let after ← partsBytes rest
      return value :: after
  | .codeUnit unit :: rest =>
      if 0xDC00 ≤ unit ∧ unit ≤ 0xDFFF then none
      else if 0xD800 ≤ unit ∧ unit ≤ 0xDBFF then
        match rest with
        | .codeUnit low :: rest =>
            if 0xDC00 ≤ low ∧ low ≤ 0xDFFF then do
              let after ← partsBytes rest
              return characterBytes
                ((unit - 0xD800) * 0x400 + (low - 0xDC00) + 0x10000) ++ after
            else none
        | _ => none
      else do
        let after ← partsBytes rest
        return characterBytes unit ++ after

/-- The text that parts make up, if it is valid. -/
def partsText (parts : List StringPart) : Option String :=
  (partsBytes parts).bind Text.ofBytes

/-- A string after its opening quote, and what follows it. -/
def readString (bytes : List UInt8) :
    Option (Option String × List UInt8) := do
  let (parts, rest) ← readParts bytes
  return (partsText parts, rest)

/-! ## Numbers -/

/-- The digits at the front of bytes, and what follows them. -/
def readDigits : List UInt8 → List Decimal.Digit × List UInt8
  | [] => ([], [])
  | byte :: rest =>
      match Decimal.digitOfByte? byte with
      | none => ([], byte :: rest)
      | some digit =>
          let (digits, after) := readDigits rest
          (digit :: digits, after)

/-- One digit or more. -/
def readSomeDigits (bytes : List UInt8) :
    Option (List Decimal.Digit × List UInt8) :=
  match readDigits bytes with
  | ([], _) => none
  | found => some found

/-- A natural number without needless zeros in front. -/
def readNat (bytes : List UInt8) : Option (Nat × List UInt8) := do
  let (digits, rest) ← readSomeDigits bytes
  match digits with
  | ⟨0, _⟩ :: _ :: _ => none
  | _ => return (Decimal.value digits, rest)

/-- The digits after a point, if there is one. -/
def readFraction : List UInt8 → Option (List Decimal.Digit × List UInt8)
  | [] => some ([], [])
  | byte :: rest =>
      if byte = point then readSomeDigits rest else some ([], byte :: rest)

/-- A sign and whether it is a minus; no sign is a plus. -/
def readSign : List UInt8 → Bool × List UInt8
  | [] => (false, [])
  | byte :: rest =>
      if byte = minus then (true, rest)
      else if byte = plus then (false, rest)
      else (false, byte :: rest)

/-- An exponent after its mark. -/
def readPower (bytes : List UInt8) : Option (Option Int × List UInt8) := do
  let (negative, rest) := readSign bytes
  let (digits, rest) ← readSomeDigits rest
  let size : Int := Decimal.value digits
  return (some (if negative then -size else size), rest)

/-- The exponent of a number, if it has one. -/
def readExponent : List UInt8 → Option (Option Int × List UInt8)
  | [] => some (none, [])
  | byte :: rest =>
      if byte = lowerE || byte = upperE then readPower rest
      else some (none, byte :: rest)

/-- A minus sign, if there is one. -/
def readMinus : List UInt8 → Bool × List UInt8
  | [] => (false, [])
  | byte :: rest => if byte = minus then (true, rest) else (false, byte :: rest)

/-- A number. -/
def readNumber (bytes : List UInt8) : Option (JsonNumber × List UInt8) := do
  let (negative, rest) := readMinus bytes
  let (whole, rest) ← readNat rest
  let (fraction, rest) ← readFraction rest
  let (exponent, rest) ← readExponent rest
  return (⟨negative, whole, fraction, exponent⟩, rest)

/-! ## Values -/

/-- What follows a word at the front of bytes. -/
def afterWord (word : String) (bytes : List UInt8) : Option (List UInt8) :=
  if (ofAscii word).isPrefixOf bytes then some (bytes.drop word.length) else none

/-- What follows a byte at the front of bytes. -/
def afterByte (expected : UInt8) : List UInt8 → Option (List UInt8)
  | [] => none
  | byte :: rest => if byte = expected then some rest else none

/-- What follows an empty array or object: a closing byte after blanks. -/
def afterEmpty (closing : UInt8) (bytes : List UInt8) : Option (List UInt8) :=
  afterByte closing (skipBlanks bytes)

/-- After one part of an array or object: what follows a comma, or what
follows the closing byte. -/
def afterPart (closing : UInt8) (bytes : List UInt8) :
    Option (List UInt8 ⊕ List UInt8) :=
  match skipBlanks bytes with
  | [] => none
  | byte :: rest =>
      if byte = comma then some (.inl rest)
      else if byte = closing then some (.inr rest)
      else none

mutual

/-- A value after blanks.  The first argument bounds the number of steps. -/
def readValue : Nat → List UInt8 → Option (ReadJson × List UInt8)
  | 0, _ => none
  | steps + 1, bytes =>
      match skipBlanks bytes with
      | [] => none
      | byte :: rest =>
          if byte = lowerN then do
            return (.null, ← afterWord "ull" rest)
          else if byte = lowerT then do
            return (.bool true, ← afterWord "rue" rest)
          else if byte = lowerF then do
            return (.bool false, ← afterWord "alse" rest)
          else if byte = quote then do
            let (content, after) ← readString rest
            return (.string content, after)
          else if byte = openBracket then
            match afterEmpty closeBracket rest with
            | some after => some (.array [], after)
            | none => do
                let (items, after) ← readItems steps rest
                return (.array items, after)
          else if byte = openBrace then
            match afterEmpty closeBrace rest with
            | some after => some (.object [], after)
            | none => do
                let (members, after) ← readMembers steps rest
                return (.object members, after)
          else do
            let (written, after) ← readNumber (byte :: rest)
            return (.number written, after)

/-- The items of an array, up to its closing bracket. -/
def readItems : Nat → List UInt8 → Option (List ReadJson × List UInt8)
  | 0, _ => none
  | steps + 1, bytes => do
      let (item, rest) ← readValue steps bytes
      match ← afterPart closeBracket rest with
      | .inl more => do
          let (items, after) ← readItems steps more
          return (item :: items, after)
      | .inr after => return ([item], after)

/-- The members of an object, up to its closing brace. -/
def readMembers : Nat → List UInt8 →
    Option (List (Option String × ReadJson) × List UInt8)
  | 0, _ => none
  | steps + 1, bytes => do
      let rest ← afterByte quote (skipBlanks bytes)
      let (name, rest) ← readString rest
      let rest ← afterByte colon (skipBlanks rest)
      let (value, rest) ← readValue steps rest
      match ← afterPart closeBrace rest with
      | .inl more => do
          let (members, after) ← readMembers steps more
          return ((name, value) :: members, after)
      | .inr after => return ([(name, value)], after)

end

/-- The value that bytes write, with blanks around it or without. -/
def parse (bytes : List UInt8) : Option ReadJson := do
  let (value, rest) ← readValue (2 * bytes.length + 1) bytes
  if skipBlanks rest = [] then return value else none

end CgroupMeter.Json
