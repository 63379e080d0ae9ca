import GpuSharing.Decimal.Binary64

/-!
# The shortest decimal that reads back

A positive finite double lies in an interval of reals that all round to it. The
shortest decimal is the nearest to the double among the decimals of fewest
digits in that interval; of two equally near ones it is the larger.
-/

set_option autoImplicit false

namespace GpuSharing.Decimal

structure Shortest where
  significand : Nat
  exponent : Int
  deriving DecidableEq, Repr

/-- The interval of reals that round to a double, in quarters of the double's own
last place, scaled by a power of two. -/
structure Interval where
  low : Nat
  value : Nat
  high : Nat
  denominator : Nat
  closed : Bool
  deriving DecidableEq, Repr

/-- The reals that round to `significand · 2^exponent` units. Below a power of two
the grid of doubles is twice as fine. -/
def Interval.around (significand exponent : Nat) : Interval :=
  let below := if significand = hiddenBit ∧ 0 < exponent then 1 else 2
  let scale := Nat.pow 2 exponent
  { low := (4 * significand - below) * scale
    value := 4 * significand * scale
    high := (4 * significand + 2) * scale
    denominator := Nat.pow 2 (unitExponent + 2)
    closed := significand % 2 = 0 }

def Interval.scaled (interval : Interval) (shift : Int) : Interval :=
  let up := Nat.pow 10 shift.toNat
  { interval with
    low := interval.low * up
    value := interval.value * up
    high := interval.high * up
    denominator := interval.denominator * Nat.pow 10 (-shift).toNat }

def Interval.contains (interval : Interval) (whole : Nat) : Bool :=
  let point := whole * interval.denominator
  if interval.closed then interval.low ≤ point && point ≤ interval.high
  else interval.low < point && point < interval.high

/-- The whole number in the interval that is nearest to its value, if one of the
value's two whole neighbours lies there. -/
def Interval.nearestWhole? (interval : Interval) : Option Nat :=
  let floor := interval.value / interval.denominator
  let remainder := interval.value % interval.denominator
  match interval.contains floor, interval.contains (floor + 1) with
  | true, true =>
      if 2 * remainder < interval.denominator then some floor else some (floor + 1)
  | true, false => some floor
  | false, true => some (floor + 1)
  | false, false => none

def digitCount (value : Nat) : Nat :=
  if value = 0 then 0 else digitCount (value / 10) + 1

/-- The exponent `e` with `10^(e-1) ≤ value < 10^e`, for a value given as a fraction. -/
def leadingExponent (numerator denominator : Nat) : Int :=
  let whole := numerator / denominator
  if 0 < whole then digitCount whole
  else
    let estimate := digitCount (denominator / numerator)
    if denominator ≤ numerator * Nat.pow 10 (estimate - 1) then 2 - estimate else 1 - (estimate : Int)

/-- Drops trailing zeros, each of which raises the exponent. -/
def Shortest.strip (fuel : Nat) (decimal : Shortest) : Shortest :=
  match fuel with
  | 0 => decimal
  | fuel + 1 =>
      if decimal.significand % 10 = 0 ∧ decimal.significand ≠ 0 then
        Shortest.strip fuel ⟨decimal.significand / 10, decimal.exponent + 1⟩
      else decimal

/-- Tries one digit, then two, up to seventeen, which always suffice. -/
def shortest (significand exponent : Nat) : Shortest :=
  let interval := Interval.around significand exponent
  let leading := leadingExponent interval.value interval.denominator
  let attempt (digits : Nat) : Option Shortest :=
    let place : Int := leading - digits
    ((interval.scaled (-place)).nearestWhole?).map fun whole => ⟨whole, place⟩
  let found := (List.range 17).findSome? fun fewer => attempt (fewer + 1)
  (found.getD ⟨interval.value / interval.denominator, 0⟩).strip 20

end GpuSharing.Decimal
