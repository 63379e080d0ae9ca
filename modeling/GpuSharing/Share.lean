import GpuSharing.Decimal.Binary64
import GpuSharing.Decimal.Layout
import GpuSharing.Error
import GpuSharing.Json.Codec

/-!
# Shares of a device

A share counts thousandths of a device, so that sums of shares are exact.
-/

set_option autoImplicit false

namespace GpuSharing

structure Share where
  millis : UInt32
  deriving DecidableEq, Repr

namespace Share

def scale : Nat := 1000

def zero : Share := ⟨0⟩
def whole : Share := ⟨1000⟩

instance : LE Share := ⟨fun a b => a.millis ≤ b.millis⟩
instance : LT Share := ⟨fun a b => a.millis < b.millis⟩
instance (a b : Share) : Decidable (a ≤ b) := inferInstanceAs (Decidable (a.millis ≤ b.millis))
instance (a b : Share) : Decidable (a < b) := inferInstanceAs (Decidable (a.millis < b.millis))

/-- The share of a number of thousandths, at most the greatest there is. -/
def ofNat (millis : Nat) : Share := ⟨UInt32.ofNat (min millis (UInt32.size - 1))⟩

def leastFraction : Float := 0.1
def greatestFraction : Float := 1.0

/-- The double that stands for a tenth, which is slightly more. -/
def tenth : Decimal.Binary64 := .ofBits 0x3FB999999999999A

def one : Decimal.Binary64 := .ofBits 0x3FF0000000000000

/-- The number of thousandths nearest to a fraction, between none and all of them.
The product with a thousand is first rounded to a double; a half goes up. -/
def nearestMillis (fraction : Decimal.Binary64) : Nat :=
  match fraction with
  | .nan => 0
  | .infinite negative => if negative then 0 else scale
  | .finite negative _ _ =>
      if negative then 0
      else min scale (Decimal.unitsToNearest (Decimal.roundToPrecision (fraction.units * scale)))

def nearest (fraction : Float) : Share :=
  ofNat (nearestMillis (.ofFloat fraction))

/-- Neither less than a tenth nor more than one. -/
def isFraction (fraction : Decimal.Binary64) : Bool :=
  !fraction.isNegative && tenth.units ≤ fraction.units && fraction.units ≤ one.units

def fractionText (fraction : Float) : String := Decimal.Layout.plain.render fraction

def ofFraction (fraction : Float) : Outcome Share :=
  if isFraction (.ofFloat fraction) then .ok (nearest fraction)
  else
    let text := fractionText fraction
    let least := fractionText leastFraction
    let greatest := fractionText greatestFraction
    refuse (.validation s!"fraction {text} is outside [{least}, {greatest}]")

def toFraction (share : Share) : Float :=
  share.millis.toFloat / scale.toFloat

def isWhole (share : Share) : Bool := scale ≤ share.millis.toNat

/-- The sum, or the greatest share where the sum is no share. -/
def add (a b : Share) : Share := ofNat (a.millis.toNat + b.millis.toNat)

/-- The difference, or nothing where it would be negative. -/
def sub (a b : Share) : Share := ofNat (a.millis.toNat - b.millis.toNat)

def sum (shares : List Share) : Share := shares.foldl add zero

def remaining (used : Share) : Share := whole.sub used

/-- The compute dies that a share needs: eight for a whole device, rounded up. -/
def dies (share : Share) : UInt8 :=
  UInt8.ofNat ((share.millis.toNat * 8 + (scale - 1)) / scale)

theorem toNat_ofNat (millis : Nat) :
    (ofNat millis).millis.toNat = min millis (UInt32.size - 1) := by
  have bound : min millis (UInt32.size - 1) < UInt32.size := by
    simp only [UInt32.size]
    omega
  rw [ofNat, UInt32.toNat_ofNat_of_lt' bound]

theorem toNat_remaining (used : Share) :
    used.remaining.millis.toNat = scale - used.millis.toNat := by
  have whole : whole.millis.toNat = scale := rfl
  rw [remaining, sub, toNat_ofNat, whole]
  simp only [scale, UInt32.size]
  omega

theorem le_iff {a b : Share} : a ≤ b ↔ a.millis.toNat ≤ b.millis.toNat := Iff.rfl

/-- The share as a fraction with three decimals. -/
def text (share : Share) : String :=
  let millis := share.millis.toNat
  let digits := toString (millis % scale)
  let padding := String.ofList (List.replicate (3 - digits.length) '0')
  toString (millis / scale) ++ "." ++ padding ++ digits

instance : ToString Share := ⟨text⟩

def toJson (share : Share) : Json := .ofNat share.millis.toNat

instance : ToJson Share := ⟨toJson⟩

def ofJson? (json : Json) : Option Share := json.uint32?.map Share.mk

instance : OfJson Share := ⟨ofJson?⟩

end Share

end GpuSharing
