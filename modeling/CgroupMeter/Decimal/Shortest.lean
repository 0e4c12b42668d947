import CgroupMeter.Decimal.Digits

/-!
# Shortest decimals

A finite floating-point number is a whole number of steps of a power of two.
The real numbers that round to it lie between the midpoints to its two
neighbours; the midpoints themselves belong to it when its significand is
even.  Its shortest decimal is a decimal with the fewest digits in that
interval, the nearest to the number of those, and of two equally near ones the
one whose last digit is even.

All is exact: each question about the interval is one about natural numbers,
with both sides multiplied by the same power of two and power of ten.
-/

namespace CgroupMeter

/-- A decimal: a whole number times a power of ten. -/
structure Decimal where
  coefficient : Nat
  exponent : Int
  deriving DecidableEq

namespace Decimal

/-- The magnitude of a floating-point number: a whole number of steps of a
power of two. -/
structure Binary where
  /-- The number of steps. -/
  significand : Nat
  /-- The power of two that a step is. -/
  exponent : Int
  /-- The next smaller number is only half a step below. -/
  narrowBelow : Bool
  deriving DecidableEq

/-- The number of values of the stored fraction, which has 52 bits. -/
def fractionSize : Nat := 4503599627370496

/-- A power of two. -/
def powerOfTwo (exponent : Nat) : Nat := Nat.pow 2 exponent

/-- A power of ten. -/
def powerOfTen (exponent : Nat) : Nat := Nat.pow 10 exponent

/-- The magnitude of the floating-point number with the given bits, if it is
finite. -/
def Binary.ofBits? (bits : UInt64) : Option Binary :=
  let stored := (bits >>> 52).toNat % 2048
  let fraction := bits.toNat % fractionSize
  if stored = 2047 then none
  else if stored = 0 then some ⟨fraction, -1074, false⟩
  else
    some
      ⟨fractionSize + fraction, (stored : Int) - 1075,
        fraction = 0 && 1 < stored⟩

/-- A number compared with a grid of decimals: the number, the ends of the
interval around it and one step of the grid, all in one unit. -/
structure Grid where
  low : Nat
  middle : Nat
  high : Nat
  step : Nat
  closed : Bool

/-- The grid of the multiples of a power of ten. -/
def Binary.grid (binary : Binary) (exponent : Int) : Grid :=
  let quarter := binary.exponent - 2
  let unit := powerOfTwo quarter.toNat * powerOfTen (-exponent).toNat
  let middle := 4 * binary.significand
  { low := (if binary.narrowBelow then middle - 1 else middle - 2) * unit
    middle := middle * unit
    high := (middle + 2) * unit
    step := powerOfTwo (-quarter).toNat * powerOfTen exponent.toNat
    closed := binary.significand % 2 = 0 }

/-- A multiple of the grid's step lies in the interval. -/
def Grid.holds (grid : Grid) (count : Nat) : Bool :=
  if grid.closed then
    grid.low ≤ count * grid.step && count * grid.step ≤ grid.high
  else
    grid.low < count * grid.step && count * grid.step < grid.high

/-- Of the multiples of the step on both sides of the number, those in the
interval, and of these the nearest. -/
def Grid.nearest? (grid : Grid) : Option Nat :=
  let below := grid.middle / grid.step
  let above := below + 1
  match grid.holds below, grid.holds above with
  | false, false => none
  | true, false => some below
  | false, true => some above
  | true, true =>
      let fromBelow := grid.middle - below * grid.step
      let fromAbove := above * grid.step - grid.middle
      if fromBelow < fromAbove then some below
      else if fromAbove < fromBelow then some above
      else if below % 2 = 0 then some below
      else some above

/-- The power of ten of a number's first digit. -/
def Grid.leading (grid : Grid) : Int :=
  if grid.step ≤ grid.middle then
    (digits (grid.middle / grid.step)).length - 1
  else
    -((digits ((grid.step - 1) / grid.middle)).length : Int)

/-- The shortest decimal on the grids of a power of ten and of the smaller
ones, as many grids as are given.  If none of them has one, the number is cut
off on the next grid. -/
def Binary.shortestFrom (binary : Binary) : Nat → Int → Decimal
  | 0, exponent =>
      let grid := binary.grid exponent
      ⟨grid.middle / grid.step, exponent⟩
  | finer + 1, exponent =>
      match (binary.grid exponent).nearest? with
      | some count => ⟨count, exponent⟩
      | none => binary.shortestFrom finer (exponent - 1)

/-- The digits that tell every floating-point number from its neighbours. -/
def enoughDigits : Nat := 17

/-- The shortest decimal of a magnitude other than zero. -/
def Binary.shortest (binary : Binary) : Decimal :=
  let found :=
    binary.shortestFrom enoughDigits (binary.grid 0).leading
  if found.coefficient = 10 then ⟨1, found.exponent + 1⟩ else found

end Decimal

end CgroupMeter
