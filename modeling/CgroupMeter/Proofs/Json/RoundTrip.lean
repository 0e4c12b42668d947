import CgroupMeter.Json.Parser
import CgroupMeter.Json.Printer
import Mathlib.Data.Nat.Init

/-!
# Written JSON is read back

A written value is read back as itself: every number with the digits it was
written with, every string as its text, every array and object part by part
and in order.  Whatever follows the value is left over, as long as it cannot
continue a number.

The statements follow the grammar.  Digits, numbers and strings come first,
and values by induction over their parts.  The steps that a reader is given
are bounded by the bytes it reads.
-/

namespace CgroupMeter.Json

open Byte

/-- A byte can stand inside a number behind a digit. -/
def continuesNumber (byte : UInt8) : Bool :=
  (Decimal.digitOfByte? byte).isSome || byte == point || byte == lowerE ||
    byte == upperE

/-- Bytes whose first byte, if there is one, does not pass a test. -/
def StartsOutside (test : UInt8 → Bool) (bytes : List UInt8) : Prop :=
  ∀ byte rest, bytes = byte :: rest → test byte = false

theorem startsOutside_nil (test : UInt8 → Bool) : StartsOutside test [] := by
  intro byte rest equation
  cases equation

theorem startsOutside_cons {test : UInt8 → Bool} {byte : UInt8}
    (outside : test byte = false) (rest : List UInt8) :
    StartsOutside test (byte :: rest) := by
  intro first after equation
  cases equation
  exact outside

theorem StartsOutside.mono {wide narrow : UInt8 → Bool} {bytes : List UInt8}
    (outside : StartsOutside wide bytes)
    (narrower : ∀ byte, narrow byte = true → wide byte = true) :
    StartsOutside narrow bytes := by
  intro byte rest equation
  cases passes : narrow byte with
  | false => rfl
  | true =>
      have refused := outside byte rest equation
      rw [narrower byte passes] at refused
      cases refused

/-! ## Digits -/

/-- Digits are read up to the first byte that is none. -/
theorem readDigits_append (digits : List Decimal.Digit) {rest : List UInt8}
    (stop : StartsOutside (fun byte => (Decimal.digitOfByte? byte).isSome) rest) :
    readDigits (digits.map Decimal.digitByte ++ rest) = (digits, rest) := by
  induction digits with
  | nil =>
      cases rest with
      | nil => rfl
      | cons byte rest =>
          have none : Decimal.digitOfByte? byte = none := by
            simpa using stop byte rest rfl
          simp [readDigits, none]
  | cons digit digits ih => simp [readDigits, ih]

theorem readSomeDigits_append {digits : List Decimal.Digit}
    (some : digits ≠ []) {rest : List UInt8}
    (stop : StartsOutside (fun byte => (Decimal.digitOfByte? byte).isSome) rest) :
    readSomeDigits (digits.map Decimal.digitByte ++ rest) =
      Option.some (digits, rest) := by
  cases digits with
  | nil => exact absurd rfl some
  | cons digit digits =>
      simp only [readSomeDigits, readDigits_append (digit :: digits) stop]

/-- Only zero itself is written with a zero in front. -/
theorem digitsOnto_eq_zero_cons {number : Nat} {after rest : List Decimal.Digit}
    (positive : 0 < number) :
    Decimal.digitsOnto number after ≠ 0 :: rest := by
  induction number, after using Decimal.digitsOnto.induct with
  | case1 number after small =>
      rw [Decimal.digitsOnto, dif_pos small]
      intro equation
      have zero : number = 0 := congrArg Fin.val (List.cons.inj equation).1
      omega
  | case2 number after large ih =>
      rw [Decimal.digitsOnto, dif_neg large]
      exact ih (by omega)

/-- Bytes that do not continue a number do not begin with a digit. -/
theorem StartsOutside.noDigit {rest : List UInt8}
    (stop : StartsOutside continuesNumber rest) :
    StartsOutside (fun byte => (Decimal.digitOfByte? byte).isSome) rest := by
  apply stop.mono
  intro byte passes
  simp [continuesNumber, passes]

theorem readNat_printNat (number : Nat) {rest : List UInt8}
    (stop : StartsOutside (fun byte => (Decimal.digitOfByte? byte).isSome) rest) :
    readNat (printNat number ++ rest) = some (number, rest) := by
  have read := readSomeDigits_append (Decimal.digits_ne_nil number) stop
  simp only [readNat, printNat, read, Option.bind_eq_bind, Option.bind_some]
  split
  · rename_i second more equation
    rcases Nat.eq_zero_or_pos number with rfl | positive
    · rw [Decimal.digits, Decimal.digitsOnto, dif_pos (by omega)] at equation
      exact absurd (List.cons.inj equation).2.symm
        (List.cons_ne_nil second more)
    · exact absurd equation (digitsOnto_eq_zero_cons positive)
  · rw [Decimal.value_digits]
    rfl

/-! ## Numbers -/

theorem readFraction_printFraction (fraction : List Decimal.Digit)
    {rest : List UInt8}
    (stop : StartsOutside
      (fun byte => (Decimal.digitOfByte? byte).isSome || byte == point) rest) :
    readFraction (printFraction fraction ++ rest) = some (fraction, rest) := by
  cases fraction with
  | nil =>
      cases rest with
      | nil => rfl
      | cons byte rest =>
          have outside := stop byte rest rfl
          simp only [Bool.or_eq_false_iff, beq_eq_false_iff_ne] at outside
          simp [printFraction, readFraction, outside.2]
  | cons digit digits =>
      have noDigit :
          StartsOutside (fun byte => (Decimal.digitOfByte? byte).isSome) rest := by
        apply stop.mono
        intro byte passes
        simp [passes]
      have read := readSomeDigits_append (List.cons_ne_nil digit digits) noDigit
      simpa [printFraction, readFraction] using read

theorem readPower_sign (exponent : Int) {rest : List UInt8}
    (stop : StartsOutside (fun byte => (Decimal.digitOfByte? byte).isSome) rest) :
    readPower ((if exponent < 0 then minus else plus) ::
      printNat exponent.natAbs ++ rest) = some (some exponent, rest) := by
  have read :=
    readSomeDigits_append (Decimal.digits_ne_nil exponent.natAbs) stop
  by_cases negative : exponent < 0
  · have value : -((exponent.natAbs : Nat) : Int) = exponent := by omega
    generalize exponent.natAbs = size at read value ⊢
    simp [readPower, readSign, printNat, read, negative, value]
  · have value : ((exponent.natAbs : Nat) : Int) = exponent := by omega
    generalize exponent.natAbs = size at read value ⊢
    have different : plus ≠ minus := by decide
    simp [readPower, readSign, printNat, read, negative, different, value]

theorem readExponent_printExponent (exponent : Option Int) {rest : List UInt8}
    (stop : StartsOutside continuesNumber rest) :
    readExponent (printExponent exponent ++ rest) = some (exponent, rest) := by
  cases exponent with
  | none =>
      cases rest with
      | nil => rfl
      | cons byte rest =>
          have outside := stop byte rest rfl
          simp only [continuesNumber, Bool.or_eq_false_iff,
            beq_eq_false_iff_ne] at outside
          simp [printExponent, readExponent, outside.1.2, outside.2]
  | some exponent =>
      have read := readPower_sign exponent stop.noDigit
      simpa [printExponent, readExponent] using read

/-- What follows the whole part of a number. -/
theorem startsOutside_printExponent (exponent : Option Int) {rest : List UInt8}
    (stop : StartsOutside continuesNumber rest) :
    StartsOutside
      (fun byte => (Decimal.digitOfByte? byte).isSome || byte == point)
      (printExponent exponent ++ rest) := by
  cases exponent with
  | none =>
      apply stop.mono
      intro byte passes
      simp only [continuesNumber, passes, Bool.true_or]
  | some exponent => exact startsOutside_cons (by decide) _

theorem startsOutside_printFraction (fraction : List Decimal.Digit)
    {rest : List UInt8}
    (stop : StartsOutside (fun byte => (Decimal.digitOfByte? byte).isSome) rest) :
    StartsOutside (fun byte => (Decimal.digitOfByte? byte).isSome)
      (printFraction fraction ++ rest) := by
  cases fraction with
  | nil => exact stop
  | cons digit digits => exact startsOutside_cons (by decide) _

theorem printNat_eq_cons (number : Nat) :
    ∃ digit rest, printNat number = Decimal.digitByte digit :: rest := by
  cases equation : Decimal.digits number with
  | nil => exact absurd equation (Decimal.digits_ne_nil number)
  | cons digit rest =>
      exact ⟨digit, rest.map Decimal.digitByte, by simp [printNat, equation]⟩

theorem digitByte_ne_minus (digit : Decimal.Digit) :
    Decimal.digitByte digit ≠ minus := by
  revert digit
  decide

theorem readMinus_sign (negative : Bool) (number : Nat) (rest : List UInt8) :
    readMinus ((if negative then [minus] else []) ++ printNat number ++ rest) =
      (negative, printNat number ++ rest) := by
  cases negative with
  | true => rfl
  | false =>
      rcases printNat_eq_cons number with ⟨digit, after, equation⟩
      simp [equation, readMinus, digitByte_ne_minus]

theorem readNumber_printNumber (number : JsonNumber) {rest : List UInt8}
    (stop : StartsOutside continuesNumber rest) :
    readNumber (printNumber number ++ rest) = some (number, rest) := by
  rcases number with ⟨negative, whole, fraction, exponent⟩
  have afterExponent := startsOutside_printExponent exponent stop
  have noDigit :
      StartsOutside (fun byte => (Decimal.digitOfByte? byte).isSome)
        (printExponent exponent ++ rest) := by
    apply afterExponent.mono
    intro byte passes
    simp [passes]
  have wholeRead :=
    readNat_printNat whole (startsOutside_printFraction fraction noDigit)
  have fractionRead := readFraction_printFraction fraction afterExponent
  have exponentRead := readExponent_printExponent exponent stop
  have signRead :=
    readMinus_sign negative whole
      (printFraction fraction ++ (printExponent exponent ++ rest))
  simp only [List.append_assoc] at signRead
  simp [printNumber, readNumber, signRead, wholeRead, fractionRead,
    exponentRead]

/-! ## Strings -/

/-- The part of a string that an escaped byte is read as. -/
def escapedPart (byte : UInt8) : StringPart :=
  if (escapeLetter? byte).isNone && isControl byte then .codeUnit byte.toNat
  else .byte byte

/-- Every letter escape is read back, and none of them is a number's. -/
theorem escapedByte?_letter {byte letter : UInt8}
    (escaped : escapeLetter? byte = some letter) :
    escapedByte? letter = some byte ∧ letter ≠ lowerU := by
  have known : (letterEscapes.all fun escape =>
      decide (escapedByte? escape.2 = some escape.1 ∧ escape.2 ≠ lowerU)) =
        true := by
    decide
  have member : (byte, letter) ∈ letterEscapes := by
    unfold escapeLetter? at escaped
    rw [List.lookup_eq_some_iff] at escaped
    rcases escaped with ⟨before, after, split, -⟩
    rw [split]
    simp
  exact of_decide_eq_true (List.all_eq_true.1 known (byte, letter) member)

theorem toNat_lt_of_isControl {byte : UInt8} (control : isControl byte = true) :
    byte.toNat < 32 := by
  simpa [isControl, space, UInt8.lt_iff_toNat_lt] using control

theorem hexOfBytes?_control {byte : UInt8} (control : isControl byte = true) :
    hexOfBytes? (hexByte 0) (hexByte 0) (hexByte (byte.toNat / 16))
      (hexByte (byte.toNat % 16)) = some byte.toNat := by
  have digit : ∀ value : Fin 16, hexOfByte? (hexByte value.val) = some value.val := by
    decide
  have small := toNat_lt_of_isControl control
  have upper := digit ⟨byte.toNat / 16, by omega⟩
  have lower := digit ⟨byte.toNat % 16, by omega⟩
  have zero := digit 0
  simp only [Fin.val_zero] at upper lower zero
  have whole : byte.toNat / 16 * 16 + byte.toNat % 16 = byte.toNat := by omega
  simp [hexOfBytes?, upper, lower, zero, whole]

theorem readParts_quote (rest : List UInt8) :
    readParts (quote :: rest) = some ([], rest) := by
  rw [readParts.eq_def]
  simp

theorem readParts_letter {letter : UInt8} (notNumber : letter ≠ lowerU)
    (rest : List UInt8) :
    readParts (backslash :: letter :: rest) = do
      let value ← escapedByte? letter
      let (parts, after) ← readParts rest
      return (.byte value :: parts, after) := by
  have notQuote : backslash ≠ quote := by decide
  rw [readParts.eq_def]
  simp only [notQuote, notNumber, if_true, if_false]

theorem readParts_codeUnit (a b c d : UInt8) (rest : List UInt8) :
    readParts (backslash :: lowerU :: a :: b :: c :: d :: rest) = do
      let unit ← hexOfBytes? a b c d
      let (parts, after) ← readParts rest
      return (.codeUnit unit :: parts, after) := by
  have notQuote : backslash ≠ quote := by decide
  rw [readParts.eq_def]
  simp only [notQuote, if_true, if_false]

theorem readParts_plain {byte : UInt8} (notQuote : byte ≠ quote)
    (notBackslash : byte ≠ backslash) (plain : isControl byte = false)
    (rest : List UInt8) :
    readParts (byte :: rest) = do
      let (parts, after) ← readParts rest
      return (.byte byte :: parts, after) := by
  rw [readParts.eq_def]
  simp only [notQuote, notBackslash, plain, if_false, Bool.false_eq_true]

/-- An escaped byte is read back as its part. -/
theorem readParts_escapeByte (byte : UInt8) (rest : List UInt8) :
    readParts (escapeByte byte ++ rest) = do
      let (parts, after) ← readParts rest
      return (escapedPart byte :: parts, after) := by
  cases escaped : escapeLetter? byte with
  | some letter =>
      rcases escapedByte?_letter escaped with ⟨back, notNumber⟩
      simp only [escapeByte, escapedPart, escaped, List.cons_append,
        List.nil_append, readParts_letter notNumber, back]
      rfl
  | none =>
      cases control : isControl byte with
      | true =>
          have back := hexOfBytes?_control control
          simp only [escapeByte, escapedPart, escaped, control, if_true,
            List.cons_append, List.nil_append, readParts_codeUnit, back]
          rfl
      | false =>
          have notQuote : byte ≠ quote := by
            rintro rfl
            cases escaped
          have notBackslash : byte ≠ backslash := by
            rintro rfl
            cases escaped
          simp only [escapeByte, escapedPart, escaped, control,
            Bool.false_eq_true, if_false, List.cons_append, List.nil_append,
            readParts_plain notQuote notBackslash control]
          rfl

/-- The bytes of a string are read back up to its closing quote. -/
theorem readParts_flatMap (bytes rest : List UInt8) :
    readParts (bytes.flatMap escapeByte ++ quote :: rest) =
      some (bytes.map escapedPart, rest) := by
  induction bytes with
  | nil => exact readParts_quote rest
  | cons byte bytes ih =>
      rw [List.flatMap_cons, List.append_assoc, readParts_escapeByte, ih]
      rfl

theorem characterBytes_control {byte : UInt8} (control : isControl byte = true) :
    characterBytes byte.toNat = [byte] := by
  have known : ∀ value : Fin 32,
      characterBytes value.val = [UInt8.ofNat value.val] := by
    decide
  have small := toNat_lt_of_isControl control
  simpa using known ⟨byte.toNat, small⟩

/-- A code unit that is no surrogate is a character of its own. -/
theorem partsBytes_codeUnit {unit : Nat} (small : unit < 0xD800)
    (rest : List StringPart) :
    partsBytes (.codeUnit unit :: rest) =
      (partsBytes rest).map (characterBytes unit ++ ·) := by
  rw [partsBytes.eq_def]
  simp only
  rw [if_neg (by omega), if_neg (by omega)]
  cases partsBytes rest with
  | none => rfl
  | some after => rfl

theorem partsBytes_map (bytes : List UInt8) :
    partsBytes (bytes.map escapedPart) = some bytes := by
  induction bytes with
  | nil => rfl
  | cons byte bytes ih =>
      rw [List.map_cons, escapedPart]
      split
      · rename_i escaped
        have control : isControl byte = true := by
          simp only [Bool.and_eq_true] at escaped
          exact escaped.2
        have small := toNat_lt_of_isControl control
        rw [partsBytes_codeUnit (by omega), ih, characterBytes_control control]
        rfl
      · rw [partsBytes, ih]
        rfl

/-- A string is read back as its text. -/
theorem readString_printString (text : String) (rest : List UInt8) :
    ∃ after, printString text ++ rest = quote :: after ∧
      readString after = some (some text, rest) := by
  refine ⟨(Text.toBytes text).flatMap escapeByte ++ quote :: rest,
    by simp [printString], ?_⟩
  simp [readString, readParts_flatMap, partsText, partsBytes_map]

/-! ## Values -/

mutual

/-- A written value as it is read: every string is a text. -/
def asRead : WrittenJson → ReadJson
  | .null => .null
  | .bool value => .bool value
  | .number written => .number written
  | .string text => .string (some text)
  | .array items => .array (itemsAsRead items)
  | .object members => .object (membersAsRead members)

/-- Written items as they are read. -/
def itemsAsRead : List WrittenJson → List ReadJson
  | [] => []
  | item :: rest => asRead item :: itemsAsRead rest

/-- Written members as they are read. -/
def membersAsRead :
    List (String × WrittenJson) → List (Option String × ReadJson)
  | [] => []
  | (name, value) :: rest => (some name, asRead value) :: membersAsRead rest

end

/-- A byte with which no value begins. -/
def isBoundary (byte : UInt8) : Bool :=
  isBlank byte || byte == closeBracket || byte == closeBrace

theorem printNumber_eq_cons (number : JsonNumber) :
    ∃ first rest, printNumber number = first :: rest ∧
      (first = minus ∨ ∃ digit, first = Decimal.digitByte digit) := by
  rcases number with ⟨negative, whole, fraction, exponent⟩
  cases negative with
  | true => exact ⟨_, _, rfl, Or.inl rfl⟩
  | false =>
      rcases printNat_eq_cons whole with ⟨digit, rest, equation⟩
      refine ⟨Decimal.digitByte digit,
        rest ++ printFraction fraction ++ printExponent exponent, ?_,
        Or.inr ⟨digit, rfl⟩⟩
      simp [printNumber, equation]

/-- The first byte of a number is told from all other first bytes. -/
theorem number_first {first : UInt8}
    (shape : first = minus ∨ ∃ digit, first = Decimal.digitByte digit) :
    isBoundary first = false ∧ first ≠ lowerN ∧ first ≠ lowerT ∧
      first ≠ lowerF ∧ first ≠ quote ∧ first ≠ openBracket ∧
      first ≠ openBrace := by
  rcases shape with rfl | ⟨digit, rfl⟩
  · decide
  · revert digit
    decide

/-- A written value begins with a byte that is no boundary. -/
theorem print_eq_cons (value : WrittenJson) :
    ∃ first rest, print value = first :: rest ∧ isBoundary first = false := by
  cases value with
  | null => exact ⟨_, _, rfl, by decide⟩
  | bool value =>
      cases value with
      | true => exact ⟨_, _, rfl, by decide⟩
      | false => exact ⟨_, _, rfl, by decide⟩
  | number written =>
      rcases printNumber_eq_cons written with ⟨first, rest, equation, shape⟩
      refine ⟨first, rest, ?_, (number_first shape).1⟩
      rw [print, equation]
  | string text => exact ⟨quote, _, by rw [print]; rfl, by decide⟩
  | array items => exact ⟨openBracket, _, by rw [print]; rfl, by decide⟩
  | object members => exact ⟨openBrace, _, by rw [print]; rfl, by decide⟩

theorem isBlank_of_isBoundary {byte : UInt8}
    (inside : isBoundary byte = false) : isBlank byte = false := by
  simp only [isBoundary, Bool.or_eq_false_iff] at inside
  exact inside.1.1

theorem skipBlanks_cons {byte : UInt8} (notBlank : isBlank byte = false)
    (rest : List UInt8) : skipBlanks (byte :: rest) = byte :: rest := by
  simp [skipBlanks, notBlank]

/-- The bytes of items or members and what closes them do not begin with the
closing byte. -/
theorem afterEmpty_eq_none {closing first : UInt8} (rest : List UInt8)
    (notBlank : isBlank first = false) (open' : first ≠ closing) :
    afterEmpty closing (first :: rest) = none := by
  simp [afterEmpty, skipBlanks_cons notBlank, afterByte, open']

theorem afterPart_comma (closing : UInt8) (rest : List UInt8) :
    afterPart closing (comma :: rest) = some (.inl rest) := by
  have notBlank : isBlank comma = false := by decide
  simp [afterPart, skipBlanks_cons notBlank]

theorem afterPart_closing {closing : UInt8} (notBlank : isBlank closing = false)
    (notComma : closing ≠ comma) (rest : List UInt8) :
    afterPart closing (closing :: rest) = some (.inr rest) := by
  simp [afterPart, skipBlanks_cons notBlank, notComma]

/-! ### What a first byte leads to -/

theorem readValue_quote (steps : Nat) (bytes : List UInt8) :
    readValue (steps + 1) (quote :: bytes) = do
      let (content, after) ← readString bytes
      return (.string content, after) := by
  rw [readValue.eq_def]
  simp only [skipBlanks_cons (show isBlank quote = false by decide)]
  rw [if_neg (by decide), if_neg (by decide), if_neg (by decide), if_pos trivial]

theorem readValue_openBracket (steps : Nat) (bytes : List UInt8) :
    readValue (steps + 1) (openBracket :: bytes) =
      match afterEmpty closeBracket bytes with
      | some after => some (.array [], after)
      | none => do
          let (items, after) ← readItems steps bytes
          return (.array items, after) := by
  rw [readValue.eq_def]
  simp only [skipBlanks_cons (show isBlank openBracket = false by decide)]
  rw [if_neg (by decide), if_neg (by decide), if_neg (by decide),
    if_neg (by decide)]
  exact if_pos trivial

theorem readValue_openBrace (steps : Nat) (bytes : List UInt8) :
    readValue (steps + 1) (openBrace :: bytes) =
      match afterEmpty closeBrace bytes with
      | some after => some (.object [], after)
      | none => do
          let (members, after) ← readMembers steps bytes
          return (.object members, after) := by
  rw [readValue.eq_def]
  simp only [skipBlanks_cons (show isBlank openBrace = false by decide)]
  rw [if_neg (by decide), if_neg (by decide), if_neg (by decide),
    if_neg (by decide), if_neg (by decide)]
  exact if_pos trivial

theorem readValue_number (steps : Nat) {first : UInt8}
    (shape : first = minus ∨ ∃ digit, first = Decimal.digitByte digit)
    (bytes : List UInt8) :
    readValue (steps + 1) (first :: bytes) = do
      let (written, after) ← readNumber (first :: bytes)
      return (.number written, after) := by
  rcases number_first shape with
    ⟨inside, notN, notT, notF, notQuote, notBracket, notBrace⟩
  rw [readValue.eq_def]
  simp only [skipBlanks_cons (isBlank_of_isBoundary inside)]
  rw [if_neg notN, if_neg notT, if_neg notF, if_neg notQuote,
    if_neg notBracket, if_neg notBrace]

theorem readValue_word (steps : Nat) (rest : List UInt8) :
    readValue (steps + 1) (print .null ++ rest) = some (.null, rest) ∧
      ∀ value, readValue (steps + 1) (print (.bool value) ++ rest) =
        some (.bool value, rest) := by
  refine ⟨rfl, ?_⟩
  intro value
  cases value with
  | true => rfl
  | false => rfl

/-! ### Values, items and members -/

/-- No value can be continued by a comma or a closing byte. -/
theorem startsOutside_boundary {byte : UInt8}
    (boundary : byte = comma ∨ byte = closeBracket ∨ byte = closeBrace)
    (rest : List UInt8) : StartsOutside continuesNumber (byte :: rest) := by
  refine startsOutside_cons ?_ rest
  rcases boundary with rfl | rfl | rfl
  · decide
  · decide
  · decide

theorem items_eq_cons (item : WrittenJson) (items : List WrittenJson) :
    ∃ first rest,
      commaSeparated (printItems (item :: items)) = first :: rest ∧
        isBlank first = false ∧ first ≠ closeBracket := by
  rcases print_eq_cons item with ⟨first, after, equation, inside⟩
  have notClosing : first ≠ closeBracket := by
    rintro rfl
    exact absurd inside (by decide)
  cases items with
  | nil =>
      refine ⟨first, after, ?_, isBlank_of_isBoundary inside, notClosing⟩
      simp only [printItems, commaSeparated, equation]
  | cons next items =>
      refine ⟨first, after ++ comma :: commaSeparated (printItems (next :: items)),
        ?_, isBlank_of_isBoundary inside, notClosing⟩
      simp only [printItems, commaSeparated, equation, List.cons_append]

/-- Written members begin with the quote of a name. -/
theorem members_eq_cons (name : String) (value : WrittenJson)
    (members : List (String × WrittenJson)) :
    ∃ rest,
      commaSeparated (printMembers ((name, value) :: members)) =
        quote :: rest := by
  cases members with
  | nil =>
      simp only [printMembers, commaSeparated, printString, List.cons_append]
      exact ⟨_, rfl⟩
  | cons next members =>
      rcases next with ⟨nextName, nextValue⟩
      simp only [printMembers, commaSeparated, printString, List.cons_append]
      exact ⟨_, rfl⟩

/-- The name of a member is read back up to the colon. -/
theorem readMembers_name (name : String) (rest : List UInt8) (steps : Nat) :
    readMembers (steps + 1) (printString name ++ colon :: rest) = do
      let (value, rest) ← readValue steps rest
      match ← afterPart closeBrace rest with
      | .inl more => do
          let (members, after) ← readMembers steps more
          return ((some name, value) :: members, after)
      | .inr after => return ([(some name, value)], after) := by
  rcases readString_printString name (colon :: rest) with
    ⟨after, equation, read⟩
  have colonRead : afterByte colon (skipBlanks (colon :: rest)) = some rest := by
    rw [skipBlanks_cons (by decide), afterByte, if_pos rfl]
  have quoteRead : afterByte quote (skipBlanks (quote :: after)) = some after := by
    rw [skipBlanks_cons (by decide), afterByte, if_pos rfl]
  rw [equation, readMembers, quoteRead]
  apply (Option.bind_some _ _).trans
  rw [read]
  apply (Option.bind_some _ _).trans
  dsimp only
  rw [colonRead]
  exact Option.bind_some _ _

mutual

/-- A written value is read back, and what follows it is left over. -/
theorem readValue_print (value : WrittenJson) {rest : List UInt8}
    (stop : StartsOutside continuesNumber rest) {steps : Nat}
    (enough : 2 * (print value).length < steps) :
    readValue steps (print value ++ rest) = some (asRead value, rest) := by
  obtain ⟨steps, rfl⟩ : ∃ fewer, steps = fewer + 1 :=
    ⟨steps - 1, by omega⟩
  match value with
  | .null => rw [(readValue_word steps rest).1, asRead]
  | .bool value => rw [(readValue_word steps rest).2, asRead]
  | .number written =>
      rcases printNumber_eq_cons written with ⟨first, after, equation, shape⟩
      have read := readNumber_printNumber written stop
      rw [print, equation, List.cons_append, readValue_number steps shape,
        ← List.cons_append, ← equation, read, asRead]
      rfl
  | .string text =>
      rcases readString_printString text rest with ⟨after, equation, read⟩
      rw [print, equation, readValue_quote, read, asRead]
      rfl
  | .array [] =>
      rw [print, printItems, asRead, itemsAsRead]
      exact readValue_openBracket steps (closeBracket :: rest)
  | .array (item :: items) =>
      rw [print] at enough ⊢
      simp only [List.length_append, List.length_cons, List.length_nil] at enough
      rcases items_eq_cons item items with
        ⟨first, after, begin, notBlank, notClosing⟩
      have read :=
        readItems_printItems item items rest
          (show 2 * (commaSeparated (printItems (item :: items))).length + 2 ≤
            steps by omega)
      rw [begin, List.cons_append] at read
      rw [List.cons_append, List.cons_append, List.append_assoc,
        readValue_openBracket, begin, List.cons_append,
        afterEmpty_eq_none _ notBlank notClosing]
      simp only [List.singleton_append, read, asRead]
      rfl
  | .object [] =>
      rw [print, printMembers, asRead, membersAsRead]
      exact readValue_openBrace steps (closeBrace :: rest)
  | .object ((name, value) :: members) =>
      rw [print] at enough ⊢
      simp only [List.length_append, List.length_cons, List.length_nil] at enough
      rcases members_eq_cons name value members with ⟨after, begin⟩
      have read :=
        readMembers_printMembers name value members rest
          (show 2 * (commaSeparated
            (printMembers ((name, value) :: members))).length + 2 ≤
              steps by omega)
      rw [begin, List.cons_append] at read
      rw [List.cons_append, List.cons_append, List.append_assoc,
        readValue_openBrace, begin, List.cons_append,
        afterEmpty_eq_none _ (by decide) (by decide)]
      simp only [List.singleton_append, read, asRead]
      rfl
  termination_by steps

theorem readItems_printItems (item : WrittenJson) (items : List WrittenJson)
    (rest : List UInt8) {steps : Nat}
    (enough : 2 * (commaSeparated (printItems (item :: items))).length + 2 ≤
      steps) :
    readItems steps
        (commaSeparated (printItems (item :: items)) ++ closeBracket :: rest) =
      some (itemsAsRead (item :: items), rest) := by
  obtain ⟨steps, rfl⟩ : ∃ fewer, steps = fewer + 1 :=
    ⟨steps - 1, by omega⟩
  match items with
  | [] =>
      simp only [printItems, commaSeparated] at enough ⊢
      have read :=
        readValue_print item
          (startsOutside_boundary (Or.inr (Or.inl rfl)) rest)
          (show 2 * (print item).length < steps by omega)
      rw [readItems, read]
      simp only [itemsAsRead, Option.bind_eq_bind, Option.bind_some]
      rw [afterPart_closing (by decide) (by decide)]
      rfl
  | next :: items =>
      have split :
          commaSeparated (printItems (item :: next :: items)) =
            print item ++
              comma :: commaSeparated (printItems (next :: items)) := by
        simp only [printItems, commaSeparated]
      rw [split, List.length_append, List.length_cons] at enough
      rw [split, List.append_assoc, List.cons_append]
      have read :=
        readValue_print item
          (startsOutside_boundary (Or.inl rfl)
            (commaSeparated (printItems (next :: items)) ++
              closeBracket :: rest))
          (show 2 * (print item).length < steps by omega)
      have others :=
        readItems_printItems next items rest
          (show 2 * (commaSeparated (printItems (next :: items))).length + 2 ≤
            steps by omega)
      rw [readItems, read]
      simp only [Option.bind_eq_bind, Option.bind_some, afterPart_comma, others]
      rw [itemsAsRead]
      rfl
  termination_by steps

theorem readMembers_printMembers (name : String) (value : WrittenJson)
    (members : List (String × WrittenJson)) (rest : List UInt8) {steps : Nat}
    (enough :
      2 * (commaSeparated (printMembers ((name, value) :: members))).length + 2 ≤
        steps) :
    readMembers steps
        (commaSeparated (printMembers ((name, value) :: members)) ++
          closeBrace :: rest) =
      some (membersAsRead ((name, value) :: members), rest) := by
  obtain ⟨steps, rfl⟩ : ∃ fewer, steps = fewer + 1 :=
    ⟨steps - 1, by omega⟩
  match members with
  | [] =>
      simp only [printMembers, commaSeparated, List.length_append,
        List.length_cons] at enough
      simp only [printMembers, commaSeparated, List.append_assoc,
        List.cons_append]
      have read :=
        readValue_print value
          (startsOutside_boundary (Or.inr (Or.inr rfl)) rest)
          (show 2 * (print value).length < steps by omega)
      rw [readMembers_name, read]
      simp only [Option.bind_eq_bind, Option.bind_some]
      rw [afterPart_closing (by decide) (by decide)]
      simp only [Option.bind_some, membersAsRead]
      rfl
  | (nextName, nextValue) :: members =>
      have split :
          commaSeparated (printMembers
              ((name, value) :: (nextName, nextValue) :: members)) =
            printString name ++ colon :: (print value ++ comma ::
              commaSeparated
                (printMembers ((nextName, nextValue) :: members))) := by
        simp only [printMembers, commaSeparated, List.append_assoc,
          List.cons_append]
      rw [split] at enough ⊢
      simp only [List.length_append, List.length_cons] at enough
      simp only [List.append_assoc, List.cons_append]
      have read :=
        readValue_print value
          (startsOutside_boundary (Or.inl rfl)
            (commaSeparated (printMembers ((nextName, nextValue) :: members)) ++
              closeBrace :: rest))
          (show 2 * (print value).length < steps by omega)
      have others :=
        readMembers_printMembers nextName nextValue members rest
          (show 2 * (commaSeparated
            (printMembers ((nextName, nextValue) :: members))).length + 2 ≤
              steps by omega)
      rw [readMembers_name, read]
      simp only [Option.bind_eq_bind, Option.bind_some, afterPart_comma, others]
      rw [membersAsRead]
      rfl
  termination_by steps

end

/-- What is written of a value is read back as a whole. -/
theorem parse_print (value : WrittenJson) :
    parse (print value) = some (asRead value) := by
  have read :=
    readValue_print value (startsOutside_nil continuesNumber)
      (show 2 * (print value).length < 2 * (print value).length + 1 by omega)
  rw [List.append_nil] at read
  simp [parse, read, skipBlanks]

end CgroupMeter.Json
