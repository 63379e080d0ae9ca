import GpuSharing.Time.Rfc3339
import GpuSharing.Proofs.Decimal.Digits
import GpuSharing.Proofs.Time.Calendar

/-!
# Times written and read back

A time that is no leap second is read back from the text it is stored as, whatever its year
and however many digits its fraction has.
-/

set_option autoImplicit false

namespace GpuSharing.Timestamp

open Decimal

/-- A time in the range of the calendar that is in no leap second. -/
structure IsOrdinary (time : Timestamp) : Prop where
  begun : earliest.seconds ≤ time.seconds
  ended : time.seconds ≤ latest.seconds
  plain : time.nanos < nanosPerSecond

instance (time : Timestamp) : Decidable time.IsOrdinary :=
  decidable_of_iff (earliest.seconds ≤ time.seconds ∧ time.seconds ≤ latest.seconds ∧
      time.nanos < nanosPerSecond)
    ⟨fun ⟨begun, ended, plain⟩ => ⟨begun, ended, plain⟩,
      fun ⟨begun, ended, plain⟩ => ⟨begun, ended, plain⟩⟩

section Padding

variable {width value : Nat}

theorem toList_padded : (padded width value).toList =
    List.replicate (width - (Nat.toDigits 10 value).length) '0' ++ Nat.toDigits 10 value := by
  simp [padded, Nat.toList_repr, ← String.length_toList]

theorem isDigit_of_mem_padded {c : Char} (member : c ∈ (padded width value).toList) :
    c.isDigit := by
  rw [toList_padded, List.mem_append] at member
  rcases member with zero | digit
  · rw [List.eq_of_mem_replicate zero]
    decide
  · exact isDigit_of_mem_toDigits digit

theorem digitsValue_padded : digitsValue (padded width value).toList = value := by
  rw [toList_padded, digitsValue_zeros, digitsValue_toDigits]

theorem padded_ne_nil : (padded width value).toList ≠ [] := by
  rw [toList_padded]
  exact List.append_ne_nil_of_right_ne_nil _ Nat.toDigits_ne_nil

theorem length_padded (positive : 0 < width) (small : value < 10 ^ width) :
    (padded width value).toList.length = width := by
  have short : (Nat.toDigits 10 value).length ≤ width :=
    Nat.toDigits_length 10 value width positive small
  rw [toList_padded, List.length_append, List.length_replicate]
  omega

end Padding

section Parts

variable {limit : Nat} {rest : List Char}

theorem trimStartChars_cons {c : Char} (solid : Text.isBlank c = false) :
    Text.trimStartChars (c :: rest) = c :: rest := by
  simp [Text.trimStartChars, solid]

theorem isBlank_eq_false_of_isDigit {c : Char} (digit : c.isDigit) : Text.isBlank c = false := by
  have bounds := toNat_of_isDigit digit
  simp only [Text.isBlank, Text.blankRanges, List.any_cons, List.any_nil]
  grind

theorem digits?_append {digits : List Char} (nonempty : digits ≠ [])
    (all : ∀ c ∈ digits, c.isDigit) (within : digits.length ≤ limit)
    (ends : Ends (rest.take (limit - digits.length))) :
    digits? limit (digits ++ rest) = some (digitsValue digits, rest) := by
  have taken : ((digits ++ rest).take limit).takeWhile Char.isDigit = digits := by
    rw [List.take_append, List.take_of_length_le within, takeWhile_digits all ends]
  simp [digits?, taken, nonempty]

theorem trimStartChars_padded (width value : Nat) :
    Text.trimStartChars ((padded width value).toList ++ rest) =
      (padded width value).toList ++ rest := by
  obtain ⟨first, others, digits⟩ := List.exists_cons_of_ne_nil (@padded_ne_nil width value)
  have digit : first.isDigit := isDigit_of_mem_padded (digits ▸ List.mem_cons_self)
  rw [digits, List.cons_append, trimStartChars_cons (isBlank_eq_false_of_isDigit digit)]

theorem digits?_padded {width value : Nat}
    (within : (padded width value).toList.length ≤ limit)
    (ends : Ends (rest.take (limit - (padded width value).toList.length))) :
    digits? limit ((padded width value).toList ++ rest) = some (value, rest) := by
  have read := digits?_append padded_ne_nil (fun _ => isDigit_of_mem_padded) within ends
  rwa [digitsValue_padded] at read

theorem field?_padded {width value : Nat} (positive : 0 < width) (small : value < 10 ^ width) :
    field? width ((padded width value).toList ++ rest) = some (value, rest) := by
  have length := length_padded positive small
  rw [field?, trimStartChars_padded]
  refine digits?_padded length.le ?_
  simp [length, Ends]

theorem mark?_cons {mark : Char} (solid : Text.isBlank mark = false) :
    mark? mark (mark :: rest) = some rest := by
  simp [mark?, trimStartChars_cons solid]

theorem ends_take_cons {c : Char} (other : c.isDigit = false) (count : Nat) :
    Ends ((c :: rest).take count) := by
  cases count with
  | zero => simp [Ends]
  | succ count => simp [Ends, other]

/-- A signed year has as many digits as it needs; the dash after it ends them. -/
theorem digits?_signedYear (magnitude : Nat) :
    digits? ((padded 4 magnitude).toList ++ '-' :: rest).length
      ((padded 4 magnitude).toList ++ '-' :: rest) = some (magnitude, '-' :: rest) :=
  digits?_padded (by simp) (ends_take_cons (by decide) _)

/-- A year of four digits begins with neither of the signs. -/
theorem ne_cons_padded {width value : Nat} {sign : Char} {others : List Char}
    (letter : sign.isDigit = false) : (padded width value).toList ++ rest ≠ sign :: others := by
  intro text
  have first : sign ∈ (padded width value).toList := by
    cases digits : (padded width value).toList with
    | nil => exact absurd digits padded_ne_nil
    | cons c _ =>
        rw [digits, List.cons_append, List.cons.injEq] at text
        exact text.1 ▸ List.mem_cons_self
  exact Bool.noConfusion (letter.symm.trans (isDigit_of_mem_padded first))

theorem year?_yearText (year : Int) :
    year? ((yearText year).toList ++ '-' :: rest) = some (year, '-' :: rest) := by
  rw [yearText]
  split
  case isTrue fourDigits =>
    have small : year.toNat < 10 ^ 4 := by omega
    have length := length_padded (by decide) small
    have read : digits? 4 ((padded 4 year.toNat).toList ++ '-' :: rest) =
        some (year.toNat, '-' :: rest) :=
      digits?_padded length.le (by simp [length, Ends])
    rw [year?, trimStartChars_padded]
    -- A sign would have the year read to its last digit; without one four digits are taken.
    split
    case h_1 minus => exact absurd minus (ne_cons_padded (by decide))
    case h_2 plus => exact absurd plus (ne_cons_padded (by decide))
    case h_3 => simp [read, fourDigits.1]
  case isFalse signed =>
    split
    case isTrue negative =>
      have magnitude : -(year.natAbs : Int) = year := by omega
      simp only [String.toList_append]
      change year? ('-' :: ((padded 4 year.natAbs).toList ++ '-' :: rest)) = _
      rw [year?, trimStartChars_cons (by decide)]
      simp only [digits?_signedYear, Option.map_some, magnitude]
    case isFalse late =>
      have magnitude : (year.natAbs : Int) = year := by omega
      simp only [String.toList_append]
      change year? ('+' :: ((padded 4 year.natAbs).toList ++ '-' :: rest)) = _
      rw [year?, trimStartChars_cons (by decide)]
      simp only [digits?_signedYear, Option.map_some, magnitude]

theorem fraction?_padded {width value : Nat} (positive : 0 < width) (few : width ≤ 9)
    (small : value < 10 ^ width) (ends : Ends rest) :
    fraction? ('.' :: ((padded width value).toList ++ rest)) =
      some (value * 10 ^ (9 - width), rest) := by
  have all {c : Char} := @isDigit_of_mem_padded width value c
  have length := length_padded positive small
  have nonempty : (padded width value).toList.isEmpty = false :=
    List.isEmpty_eq_false_iff.mpr padded_ne_nil
  simp only [fraction?, takeWhile_digits @all ends, dropWhile_digits @all ends, nonempty,
    List.take_of_length_le (length.trans_le few), length, digitsValue_padded, Nat.pow_eq,
    Bool.false_eq_true, if_false]

theorem fraction?_fractionText {nanos : Nat} (plain : nanos < nanosPerSecond) :
    fraction? ((fractionText nanos).toList ++ 'Z' :: rest) = some (nanos, 'Z' :: rest) := by
  have ends : Ends ('Z' :: rest) := by simp [Ends]
  rw [nanosPerSecond] at plain
  have kept {width value : Nat} (positive : 0 < width) (few : width ≤ 9)
      (small : value < 10 ^ width) (whole : value * 10 ^ (9 - width) = nanos) :
      fraction? (("." ++ padded width value).toList ++ 'Z' :: rest) =
        some (nanos, 'Z' :: rest) := by
    have point : ".".toList = ['.'] := rfl
    rw [String.toList_append, point, List.append_assoc, List.singleton_append,
      fraction?_padded positive few small ends, whole]
  rw [fractionText]
  split
  case isTrue none => simp [none, fraction?]
  case isFalse =>
    split
    case isTrue millis => exact kept (by decide) (by decide) (by omega) (by omega)
    case isFalse =>
      split
      case isTrue micros => exact kept (by decide) (by decide) (by omega) (by omega)
      case isFalse => exact kept (by decide) (by decide) (by omega) (by omega)

end Parts

section Whole

variable {time : Timestamp}

/-- The parts of a time make it up again. -/
theorem ofParts?_ofDays (ordinary : time.IsOrdinary) :
    let ofDay := (time.seconds % secondsPerDay).toNat
    ofParts? (Date.ofDays (time.seconds / secondsPerDay)) (ofDay / 3600) (ofDay / 60 % 60)
      (ofDay % 60) time.nanos 0 = some time := by
  intro ofDay
  obtain ⟨begun, ended, -⟩ := ordinary
  have valid := Date.isValid_ofDays (time.seconds / secondsPerDay)
  have inDay : time.seconds / secondsPerDay * secondsPerDay + ofDay = time.seconds ∧
      ofDay < 86400 := by
    simp only [ofDay, secondsPerDay]
    omega
  generalize ofDay = passed at inDay ⊢
  have hour : passed / 3600 < 24 := by omega
  have minute : passed / 60 % 60 < 60 := by omega
  have second : passed % 60 < 60 := by omega
  have clock : ((passed / 3600 : Nat) : Int) * 3600 + (passed / 60 % 60 : Nat) * 60 +
      (passed % 60 : Nat) = passed := by omega
  rw [ofParts?, if_pos (by simp [hour, minute, second.le, valid]; decide)]
  simp only [second.ne, if_false, Date.toDays_ofDays, clock, Int.sub_zero, Int.add_zero, inDay.1]
  rw [if_pos ⟨begun, ended, begun, ended⟩]

theorem toList_toRfc3339 (plain : time.nanos < nanosPerSecond) :
    let date := Date.ofDays (time.seconds / secondsPerDay)
    let ofDay := (time.seconds % secondsPerDay).toNat
    time.toRfc3339.toList =
      (yearText date.year).toList ++ '-' :: ((padded 2 date.month).toList ++
        '-' :: ((padded 2 date.day).toList ++ 'T' :: ((padded 2 (ofDay / 3600)).toList ++
        ':' :: ((padded 2 (ofDay / 60 % 60)).toList ++ ':' :: ((padded 2 (ofDay % 60)).toList ++
        ((fractionText time.nanos).toList ++ ['Z'])))))) := by
  simp [toRfc3339, dateText, clockText, plain.not_ge]

/-- A time that is in no leap second is read back from its text. -/
theorem ofRfc3339?_toRfc3339 (ordinary : time.IsOrdinary) :
    ofRfc3339? time.toRfc3339 = some time := by
  have plain := ordinary.plain
  have valid := Date.isValid_ofDays (time.seconds / secondsPerDay)
  have parts := ofParts?_ofDays ordinary
  have ofDay : (time.seconds % secondsPerDay).toNat < 86400 := by
    rw [secondsPerDay]
    omega
  simp only [ofRfc3339?, toList_toRfc3339 plain]
  generalize Date.ofDays (time.seconds / secondsPerDay) = date at *
  generalize (time.seconds % secondsPerDay).toNat = passed at *
  have dash : Text.isBlank '-' = false := by decide
  have colon : Text.isBlank ':' = false := by decide
  have two : 0 < 2 := by decide
  have month : date.month < 10 ^ 2 := by have := (Date.bounds_of_isValid valid).1; omega
  have day : date.day < 10 ^ 2 := by have := (Date.bounds_of_isValid valid).2; omega
  have hour : passed / 3600 < 10 ^ 2 := by omega
  have minute : passed / 60 % 60 < 10 ^ 2 := by omega
  have second : passed % 60 < 10 ^ 2 := by omega
  have next {α β : Type} (value : α) (f : α → Option β) : (some value >>= f) = f value := rfl
  have utc : offset? (Text.trimStartChars ['Z']) = some (0, []) := rfl
  simp only [year?_yearText, mark?_cons dash, mark?_cons colon, field?_padded two month,
    field?_padded two day, field?_padded two hour, field?_padded two minute,
    field?_padded two second, true_or, if_true, fraction?_fractionText plain, utc, next]
  exact parts

end Whole

end GpuSharing.Timestamp
