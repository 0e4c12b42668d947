import CgroupMeter.Counter

/-!
# Numbers for rates

Rates are computed in any numbers that have the operations used here: in
floating-point numbers when the program runs, in exact ones when a law is
stated without rounding.
-/

namespace CgroupMeter

/-- Numbers in which rates are computed. -/
class RateNumber (N : Type) extends Mul N, Div N where
  ofNat : Nat → N
  below : N → N → Bool

instance : RateNumber Float where
  ofNat := Float.ofNat
  below left right := left < right

namespace RateNumber

variable {N : Type} [RateNumber N]

/-- The nearest number between two ends. -/
def clamp (low high number : N) : N :=
  let raised := if below number low then low else number
  if below high raised then high else raised

/-- The percentage that a value is of a limit.  No limit counts zero. -/
def percentOf (value limit : Counter) : N :=
  if limit = 0 then ofNat 0
  else ofNat 100 * ofNat value.toNat / ofNat limit.toNat

end RateNumber

end CgroupMeter
