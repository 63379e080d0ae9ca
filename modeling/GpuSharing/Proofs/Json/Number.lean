import GpuSharing.Json.Number
import GpuSharing.Proofs.Decimal.Digits

/-!
# Whole numbers in JSON text and back

A whole number of 64 bits, with or without a sign, is read back from its digits, as long as
nothing follows them that a number could go on with.
-/

set_option autoImplicit false

namespace GpuSharing.Json

/-- What may follow a whole number: no further digit, no fraction and no exponent. -/
def EndsNumber (rest : List Char) : Prop :=
  ∀ c ∈ rest.head?, c.isDigit = false ∧ c ≠ '.' ∧ c ≠ 'e' ∧ c ≠ 'E'

variable {digits rest : List Char}

theorem someDigits?_append (all : ∀ c ∈ digits, c.isDigit) (nonempty : digits ≠ [])
    (ends : Decimal.Ends rest) : someDigits? (digits ++ rest) = some (digits, rest) := by
  unfold someDigits?
  rw [Decimal.takeWhile_digits all ends, Decimal.dropWhile_digits all ends]
  simp [nonempty]

theorem fraction?_of_ends (ends : EndsNumber rest) : fraction? rest = some (none, rest) := by
  unfold fraction?
  split
  · exact absurd rfl (ends '.' rfl).2.1
  · rfl

theorem exponent?_of_ends (ends : EndsNumber rest) : exponent? rest = some (none, rest) := by
  cases rest with
  | nil => rfl
  | cons mark rest =>
      obtain ⟨_, _, lower, upper⟩ := ends mark rfl
      exact if_neg (by simp [lower, upper])

theorem minus_digits (negative : Bool) (all : ∀ c ∈ digits, c.isDigit) (nonempty : digits ≠ []) :
    minus ((if negative then ['-'] else []) ++ (digits ++ rest)) = (negative, digits ++ rest) := by
  cases negative with
  | true => rfl
  | false =>
      obtain ⟨first, others, rfl⟩ := List.exists_cons_of_ne_nil nonempty
      have digit := all first List.mem_cons_self
      change minus (first :: (others ++ rest)) = _
      unfold minus
      split
      · rename_i same
        cases (List.cons.inj same).1
        exact absurd digit (by decide)
      · rfl

theorem numberText?_digits (negative : Bool) (value : Nat) (ends : EndsNumber rest) :
    numberText? ((if negative then ['-'] else []) ++ (Nat.toDigits 10 value ++ rest)) =
      some (⟨negative, Nat.toDigits 10 value, none, none⟩, rest) := by
  have all : ∀ c ∈ Nat.toDigits 10 value, c.isDigit := fun _ => Decimal.isDigit_of_mem_toDigits
  have read : someDigits? (Nat.toDigits 10 value ++ rest) = some (Nat.toDigits 10 value, rest) :=
    someDigits?_append all Nat.toDigits_ne_nil fun c first => (ends c first).1
  have leading : (decide ((Nat.toDigits 10 value).length = 1) ||
      decide ((Nat.toDigits 10 value).head? ≠ some '0')) = true := by
    rcases Nat.eq_zero_or_pos value with rfl | positive
    · rfl
    · simp [Decimal.head?_toDigits positive]
  unfold numberText?
  rw [minus_digits negative all Nat.toDigits_ne_nil]
  simp only [read, Option.bind_eq_bind, Option.bind_some, leading, guard, if_true,
    fraction?_of_ends ends, exponent?_of_ends ends, Option.pure_def]

/-- A whole number that 64 bits hold, with or without a sign. -/
def IsWord (value : Int) : Prop := -(UInt64.size / 2 : Nat) ≤ value ∧ value < UInt64.size

instance (value : Int) : Decidable (IsWord value) := inferInstanceAs (Decidable (_ ∧ _))

theorem isWord_ofNat {value : Nat} (small : value < UInt64.size) : IsWord value := by
  unfold IsWord
  omega

theorem toList_toString (value : Int) : (toString value).toList =
    (if value < 0 then ['-'] else []) ++ Nat.toDigits 10 value.natAbs := by
  cases value with
  | ofNat value =>
      have unsigned : ¬Int.ofNat value < 0 := Int.not_lt.mpr (Int.natCast_nonneg value)
      rw [if_neg unsigned]
      exact Nat.toList_repr
  | negSucc value =>
      rw [if_pos (Int.negSucc_lt_zero value)]
      change ("-" ++ Nat.repr (value + 1)).toList = _
      rw [String.toList_append, Nat.toList_repr]
      rfl

theorem value_digits {value : Int} (word : IsWord value) :
    (NumberText.mk (decide (value < 0)) (Nat.toDigits 10 value.natAbs) none none).value =
      .integer value := by
  obtain ⟨low, high⟩ := word
  unfold NumberText.value
  dsimp only
  rw [Decimal.digitsValue_toDigits]
  split
  · rename_i negative
    have negative := of_decide_eq_true negative
    rw [if_pos ⟨by omega, by omega⟩]
    congr 1
    omega
  · rename_i positive
    have positive : ¬value < 0 := fun negative => positive (decide_eq_true negative)
    rw [if_pos (by omega)]
    congr 1
    omega

/-- A whole number that fits is read back from its text. -/
theorem numberText?_integer {value : Int} (word : IsWord value) (ends : EndsNumber rest) :
    (numberText? ((toString value).toList ++ rest)).map (fun read => (read.1.value, read.2)) =
      some (.integer value, rest) := by
  have read := numberText?_digits (decide (value < 0)) value.natAbs ends
  simp only [decide_eq_true_eq] at read
  rw [toList_toString, List.append_assoc, read, Option.map_some, value_digits word]

end GpuSharing.Json
