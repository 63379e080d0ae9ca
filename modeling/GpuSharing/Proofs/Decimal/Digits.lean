import GpuSharing.Decimal.Reader
import Mathlib

/-!
# Decimal digits of a number

The digits that a whole number is written with have its value, also behind leading zeros,
and a reader that takes digits as long as there are any takes just these.
-/

set_option autoImplicit false

namespace GpuSharing.Decimal

section Values

theorem digitsValue_toDigits (value : Nat) : digitsValue (Nat.toDigits 10 value) = value :=
  Nat.ofDigitChars_ten_toDigits

theorem digitsValue_zeros (count : Nat) (digits : List Char) :
    digitsValue (List.replicate count '0' ++ digits) = digitsValue digits := by
  have zeros : Nat.ofDigitChars 10 (List.replicate count '0') 0 = 0 :=
    Nat.ofDigitChars_replicate_zero
  exact (Nat.ofDigitChars_append 0).trans (congrArg (Nat.ofDigitChars 10 digits) zeros)

theorem isDigit_of_mem_toDigits {value : Nat} {c : Char} (member : c ∈ Nat.toDigits 10 value) :
    c.isDigit :=
  Nat.isDigit_of_mem_toDigits (by decide) (by decide) member

/-- Only zero is written with a leading zero. -/
theorem head?_toDigits {value : Nat} (positive : 0 < value) :
    (Nat.toDigits 10 value).head? ≠ some '0' := by
  induction value using Nat.strong_induction_on with
  | _ value ih =>
      rw [Nat.toDigits_eq_if (by decide)]
      split
      · simpa using positive.ne'
      · rw [List.head?_append_of_ne_nil _ Nat.toDigits_ne_nil]
        exact ih (value / 10) (by omega) (by omega)

end Values

section Readers

theorem toNat_of_isDigit {c : Char} (digit : c.isDigit) : 48 ≤ c.toNat ∧ c.toNat ≤ 57 := by
  simpa [Char.isDigit, UInt32.le_iff_toNat_le] using digit

theorem digitIn?_ten {c : Char} (digit : c.isDigit) : digitIn? 10 c = some (digitValue c) := by
  have bounds := toNat_of_isDigit digit
  have small : c.toNat - 48 < 10 := by omega
  simp [digitIn?, digit, digitValue, Option.filter_some, small]

theorem foldl_digitIn? {digits : List Char} (all : ∀ c ∈ digits, c.isDigit) (start : Nat) :
    digits.foldl (fun value c =>
      value.bind fun v => (digitIn? 10 c).map fun d => 10 * v + d) (some start) =
        some (digits.foldl (fun value c => 10 * value + digitValue c) start) := by
  induction digits generalizing start with
  | nil => rfl
  | cons c digits ih =>
      rw [List.forall_mem_cons] at all
      simpa [digitIn?_ten all.1] using ih all.2 (10 * start + digitValue c)

theorem natIn?_toDigits (value : Nat) : natIn? 10 (Nat.toDigits 10 value) = some value := by
  have all : ∀ c ∈ Nat.toDigits 10 value, c.isDigit := fun _ => isDigit_of_mem_toDigits
  have nonempty : Nat.toDigits 10 value ≠ [] := Nat.toDigits_ne_nil
  have read : (Nat.toDigits 10 value).foldl (fun value c =>
      value.bind fun v => (digitIn? 10 c).map fun d => 10 * v + d) (some 0) = some value :=
    (foldl_digitIn? all 0).trans (congrArg some (digitsValue_toDigits value))
  unfold natIn?
  split
  case h_1 plus =>
    have sign : '+'.isDigit := all '+' (plus ▸ List.mem_cons_self)
    cases sign
  case h_2 => simpa [nonempty] using read

end Readers

section Scanning

variable {digits rest : List Char}

/-- A run of digits ends where a text ends or goes on with something else. -/
def Ends (rest : List Char) : Prop := ∀ c ∈ rest.head?, c.isDigit = false

theorem takeWhile_digits (all : ∀ c ∈ digits, c.isDigit) (ends : Ends rest) :
    (digits ++ rest).takeWhile Char.isDigit = digits := by
  rw [List.takeWhile_append_of_pos all]
  cases rest with
  | nil => simp
  | cons c rest => simp [ends c rfl]

theorem dropWhile_digits (all : ∀ c ∈ digits, c.isDigit) (ends : Ends rest) :
    (digits ++ rest).dropWhile Char.isDigit = rest := by
  rw [List.dropWhile_append_of_pos all]
  cases rest with
  | nil => rfl
  | cons c rest => simp [ends c rfl]

end Scanning

end GpuSharing.Decimal
