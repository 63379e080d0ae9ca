import GpuSharing.Share
import Mathlib

/-!
# Fractions as shares

A fraction that is accepted becomes a share between a tenth of a device and all of it: the
product with a thousand loses next to nothing when it is rounded to a double, and a tenth is
then still closest to a hundred thousandths.
-/

set_option autoImplicit false

namespace GpuSharing

namespace Decimal

/-- What stands below the last of 53 bits is at most a 2^-52 part. -/
theorem below_precision (value : Nat) :
    value % Nat.pow 2 (value.log2 + 1 - 53) * 2 ^ 52 ≤ value := by
  change value % 2 ^ (value.log2 + 1 - 53) * 2 ^ 52 ≤ value
  rcases Nat.lt_or_ge value.log2 53 with short | long
  · have shift : value.log2 + 1 - 53 = 0 := by omega
    rw [shift, pow_zero, Nat.mod_one, zero_mul]
    exact Nat.zero_le _
  · have shift : value.log2 + 1 - 53 + 52 = value.log2 := by omega
    have nonzero : value ≠ 0 := fun none => by simp [none] at long
    calc value % 2 ^ (value.log2 + 1 - 53) * 2 ^ 52
        ≤ 2 ^ (value.log2 + 1 - 53) * 2 ^ 52 :=
          Nat.mul_le_mul_right _ (Nat.mod_lt _ (Nat.two_pow_pos _)).le
      _ = 2 ^ value.log2 := by rw [← pow_add, shift]
      _ ≤ value := Nat.log2_self_le nonzero

theorem le_roundToPrecision (value : Nat) :
    value * 2 ^ 52 ≤ roundToPrecision value * 2 ^ 52 + value := by
  have below := below_precision value
  unfold roundToPrecision
  dsimp only
  generalize Nat.pow 2 (value.log2 + 1 - 53) = place at below ⊢
  have whole : value / place * place + value % place = value := Nat.div_add_mod' value place
  have up (rounded : Nat) (least : value / place ≤ rounded) :
      value * 2 ^ 52 ≤ rounded * place * 2 ^ 52 + value := by
    calc value * 2 ^ 52
        = value / place * place * 2 ^ 52 + value % place * 2 ^ 52 := by rw [← add_mul, whole]
      _ ≤ rounded * place * 2 ^ 52 + value :=
          Nat.add_le_add (Nat.mul_le_mul_right _ (Nat.mul_le_mul_right place least)) below
  refine up _ ?_
  split
  · exact Nat.le_succ _
  · split
    · exact Nat.le_succ _
    · exact Nat.le_refl _

theorem le_unitsToNearest {count units : Nat}
    (enough : count * (2 * 2 ^ unitExponent) ≤ 2 * units + 2 ^ unitExponent) :
    count ≤ unitsToNearest units := by
  unfold unitsToNearest
  simp only [Nat.pow_eq, pow_succ']
  have some : 0 < 2 ^ unitExponent := by positivity
  generalize (2 : Nat) ^ unitExponent = half at enough some ⊢
  exact (Nat.le_div_iff_mul_le (Nat.mul_pos two_pos some)).mpr enough

end Decimal

namespace Share

theorem units_tenth : tenth.units = 7205759403792794 * 2 ^ 1018 := by decide +kernel

theorem le_nearestMillis {fraction : Decimal.Binary64} (accepted : isFraction fraction) :
    100 ≤ nearestMillis fraction := by
  simp only [isFraction, Bool.and_eq_true, Bool.not_eq_true', decide_eq_true_eq] at accepted
  obtain ⟨⟨positive, least⟩, _⟩ := accepted
  have half : 2 ^ Decimal.unitExponent = 2 ^ 56 * 2 ^ 1018 := by decide +kernel
  have place : 0 < 2 ^ 1018 := by positivity
  rw [units_tenth] at least
  cases fraction with
  | nan => exact absurd least (Nat.not_le.mpr (Nat.mul_pos (by decide) place))
  | infinite negative => exact absurd least (Nat.not_le.mpr (Nat.mul_pos (by decide) place))
  | finite negative significand exponent =>
      obtain rfl : negative = false := positive
      rw [nearestMillis, if_neg Bool.false_ne_true]
      refine Nat.le_min.mpr ⟨by decide, Decimal.le_unitsToNearest ?_⟩
      generalize Decimal.Binary64.units _ = units at least ⊢
      have rounded := Decimal.le_roundToPrecision (units * scale)
      rw [half]
      unfold scale at rounded ⊢
      generalize (2 : Nat) ^ 1018 = place at least ⊢
      omega

theorem nearestMillis_le (fraction : Decimal.Binary64) : nearestMillis fraction ≤ scale := by
  unfold nearestMillis
  split
  · exact Nat.zero_le _
  · split
    · exact Nat.zero_le _
    · exact Nat.le_refl _
  · split
    · exact Nat.zero_le _
    · exact Nat.min_le_left _ _

/-- A tenth of a device at least, and all of it at most. -/
theorem ofFraction_bounds {fraction : Float} {share : Share}
    (accepted : ofFraction fraction = .ok share) :
    100 ≤ share.millis.toNat ∧ share.millis.toNat ≤ scale := by
  unfold ofFraction at accepted
  split at accepted
  · rename_i within
    obtain rfl : nearest fraction = share := Except.ok.inj accepted
    have least := le_nearestMillis within
    have most := nearestMillis_le (.ofFloat fraction)
    rw [nearest, toNat_ofNat]
    simp only [scale, UInt32.size] at most ⊢
    omega
  · cases accepted

end Share

end GpuSharing
