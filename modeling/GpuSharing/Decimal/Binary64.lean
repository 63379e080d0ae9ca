/-!
# The exact value of a double

A finite double is a whole number of units of 2^-1074, so every comparison and
rounding of the node's fractions can be done on natural numbers.
-/

set_option autoImplicit false

namespace GpuSharing.Decimal

/-- The exponent of the smallest positive double: every finite double is a
multiple of 2^-`unitExponent`. -/
def unitExponent : Nat := 1074

def signBit : Nat := 0x8000000000000000

/-- The leading bit of every double but the smallest ones, 2^52. It is not stored. -/
def hiddenBit : Nat := 0x10000000000000

/-- What the bits of a double stand for. A finite one is
`significand · 2^exponent` units, with `significand < 2^53`. -/
inductive Binary64 where
  | nan
  | infinite (negative : Bool)
  | finite (negative : Bool) (significand exponent : Nat)
  deriving DecidableEq, Repr

namespace Binary64

def ofBits (bits : Nat) : Binary64 :=
  let negative := bits / signBit % 2 == 1
  let exponent := bits / hiddenBit % 2048
  let trailing := bits % hiddenBit
  if exponent = 2047 then
    if trailing = 0 then .infinite negative else .nan
  else if exponent = 0 then .finite negative trailing 0
  else .finite negative (hiddenBit + trailing) (exponent - 1)

def ofFloat (value : Float) : Binary64 :=
  ofBits value.toBits.toNat

def units : Binary64 → Nat
  | finite _ significand exponent => significand * Nat.pow 2 exponent
  | _ => 0

def isNegative : Binary64 → Bool
  | nan => false
  | infinite negative => negative
  | finite negative _ _ => negative

end Binary64

/-- Cuts a positive number to at most 53 significant bits, to the nearest such
number; a half goes to the even neighbour. -/
def roundToPrecision (value : Nat) : Nat :=
  let place := Nat.pow 2 (value.log2 + 1 - 53)
  let quotient := value / place
  let remainder := value % place
  let rounded :=
    if place < 2 * remainder then quotient + 1
    else if 2 * remainder = place ∧ quotient % 2 = 1 then quotient + 1
    else quotient
  rounded * place

def unitsToNearest (units : Nat) : Nat :=
  (2 * units + Nat.pow 2 unitExponent) / Nat.pow 2 (unitExponent + 1)

/-- An order on all doubles by their bits: negative ones by falling magnitude,
then the positive ones by rising magnitude, with NaN at the far ends. -/
def orderKey (value : Float) : Int :=
  let bits := value.toBits.toNat
  if bits < signBit then bits else -1 - (bits - signBit : Int)

end GpuSharing.Decimal
