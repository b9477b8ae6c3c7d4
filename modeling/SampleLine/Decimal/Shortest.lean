/-
The shortest decimal that reads back as a given binary number: the point of
the coarsest decimal grid that lies in the interval of reals that round to the
number.  All arithmetic is exact.
-/
namespace SampleLine

namespace Decimal

/-- A positive binary number with the interval of reals that round to it.  All
three are counted in parts of one `unit`; `closed` tells whether the ends of the
interval round to the number too. -/
structure Rounding where
  low : Nat
  value : Nat
  high : Nat
  unit : Nat
  closed : Bool
deriving DecidableEq, Repr

/-- The interval that rounds to the positive number of the given bits.  The gap
below a power of two is half the gap above it. -/
def Rounding.ofBits (fraction field : Nat) : Rounding :=
  let significand := if field = 0 then fraction else Nat.pow 2 52 + fraction
  let exponent : Int := if field = 0 then -1076 else field - 1077
  let gap := if fraction = 0 ∧ 1 < field then 1 else 2
  let scale := Nat.pow 2 exponent.toNat
  { low := (4 * significand - gap) * scale
    value := 4 * significand * scale
    high := (4 * significand + 2) * scale
    unit := Nat.pow 2 (-exponent).toNat
    closed := significand % 2 = 0 }

def Rounding.holds (rounding : Rounding) (step count : Nat) : Bool :=
  if rounding.closed then
    rounding.low ≤ count * step ∧ count * step ≤ rounding.high
  else rounding.low < count * step ∧ count * step < rounding.high

/-- The number of steps that leads into the interval and nearest to its number.
Of two that are equally near it is the even one. -/
def Rounding.nearest? (rounding : Rounding) (step : Nat) : Option Nat :=
  let below := rounding.value / step
  let twice := 2 * (rounding.value % step)
  let up := if twice = step then below % 2 = 1 else step < twice
  if rounding.holds step below then
    if up ∧ rounding.holds step (below + 1) then some (below + 1) else some below
  else if rounding.holds step (below + 1) then some (below + 1)
  else none

/-- The same interval in units of `10 ^ exponent`, with the size of one step. -/
def Rounding.onGrid (rounding : Rounding) (exponent : Int) : Rounding × Nat :=
  let finer := Nat.pow 10 (-exponent).toNat
  ({ rounding with
      low := rounding.low * finer
      value := rounding.value * finer
      high := rounding.high * finer },
   rounding.unit * Nat.pow 10 exponent.toNat)

/-- The point of the coarsest grid that lies in the interval, among `tries`
grids from `10 ^ exponent` down. -/
def Rounding.shortestFrom (rounding : Rounding) (exponent : Int) : Nat → Nat × Int
  | 0 => (0, exponent)
  | tries + 1 =>
      let grid := rounding.onGrid exponent
      match grid.1.nearest? grid.2 with
      | some count => (count, exponent)
      | none => rounding.shortestFrom (exponent - 1) tries

/-- The shortest decimal, as a count of steps of `10 ^` the second part.  The
greatest number lies below `10 ^ 309` and the least above `10 ^ -324`. -/
def Rounding.shortest (rounding : Rounding) : Nat × Int :=
  rounding.shortestFrom 309 640

example : (Rounding.ofBits 1 0).shortest = (5, -324) := by decide +kernel

example : (Rounding.ofBits 0 1023).shortest = (1, 0) := by decide +kernel

example : (Rounding.ofBits (2 ^ 52 - 1) 2046).shortest = (17976931348623157, 292) := by
  decide +kernel

end Decimal

end SampleLine
