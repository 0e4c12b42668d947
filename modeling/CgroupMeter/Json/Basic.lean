import CgroupMeter.Decimal.Digits

/-!
# JSON values

A JSON value as a tree.  Numbers keep the digits they are written with, so
that each reader decides what a number means to it.  The members of an object
keep their order, and a name may occur twice.

Values that are written hold texts.  Values that are read hold texts where
the bytes between the quotes are valid text, and nothing elsewhere.
-/

namespace CgroupMeter

/-- A JSON number as it is written. -/
structure JsonNumber where
  /-- A minus sign stands before it. -/
  negative : Bool
  /-- The number before the point. -/
  whole : Nat
  /-- The digits after the point, if there is one. -/
  fraction : List Decimal.Digit
  /-- The power of ten after the exponent mark, if there is one. -/
  exponent : Option Int
  deriving DecidableEq

/-- A JSON value. -/
inductive Json (Content : Type) where
  | null
  | bool (value : Bool)
  | number (number : JsonNumber)
  | string (content : Content)
  | array (items : List (Json Content))
  | object (members : List (Content × Json Content))

namespace JsonNumber

/-- A natural number. -/
def ofNat (number : Nat) : JsonNumber :=
  ⟨false, number, [], none⟩

/-- The natural number that is written without sign, point and exponent. -/
def toNat? (number : JsonNumber) : Option Nat :=
  if number.negative then none
  else
    match number.fraction, number.exponent with
    | [], none => some number.whole
    | _, _ => none

@[simp]
theorem toNat?_ofNat (number : Nat) : (ofNat number).toNat? = some number := rfl

end JsonNumber

namespace Json

variable {Content : Type}

/-- A natural number. -/
def ofNat (number : Nat) : Json Content :=
  .number (.ofNat number)

/-- An unsigned number of 64 bits. -/
def ofUInt64 (number : UInt64) : Json Content :=
  ofNat number.toNat

/-- The value of a member's name, if exactly one member has it. -/
def member? [DecidableEq Content]
    (members : List (Content × Json Content)) (name : Content) :
    Option (Json Content) :=
  match members.filter fun member => member.1 = name with
  | [(_, value)] => some value
  | _ => none

end Json

/-- A value to be written. -/
abbrev WrittenJson := Json String

/-- A value that was read. -/
abbrev ReadJson := Json (Option String)

namespace ReadJson

/-- The members of an object by name, if every name is a text. -/
def members? : List (Option String × ReadJson) →
    Option (List (String × ReadJson))
  | [] => some []
  | (none, _) :: _ => none
  | (some name, value) :: rest => do
      let after ← members? rest
      return (name, value) :: after

/-- The fields of a record: the values of an object's members of these names,
each of which occurs once, or the items of an array of as many values. -/
def fields? (names : List String) : ReadJson → Option (List ReadJson)
  | .object members => do
      let _ ← members? members
      names.mapM fun name => Json.member? members (some name)
  | .array items => if items.length = names.length then some items else none
  | _ => none

/-- The fields of a record that has no other fields. -/
def exactFields? (names : List String) (value : ReadJson) :
    Option (List ReadJson) := do
  match value with
  | .object members =>
      if members.all fun member => names.any fun name => member.1 = some name
      then fields? names value
      else none
  | _ => fields? names value

/-- A natural number below a bound. -/
def natBelow? (bound : Nat) : ReadJson → Option Nat
  | .number number => number.toNat?.filter (· < bound)
  | _ => none

/-- An unsigned number of 64 bits. -/
def uint64? (value : ReadJson) : Option UInt64 :=
  (value.natBelow? UInt64.size).map UInt64.ofNat

/-- An unsigned number of 32 bits. -/
def uint32? (value : ReadJson) : Option UInt32 :=
  (value.natBelow? UInt32.size).map UInt32.ofNat

end ReadJson

end CgroupMeter
