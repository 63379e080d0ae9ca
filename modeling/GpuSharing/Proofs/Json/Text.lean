import GpuSharing.Json.Text
import Mathlib

/-!
# Strings in JSON text and back

Whatever a text holds, quotes, backslashes and control characters included, reading its quoted
form gives it back, with all that stands after the closing quote.
-/

set_option autoImplicit false

namespace GpuSharing.Json

section Escapes

variable {c : Char} {rest : List Char}

theorem codeUnit?_control (small : c.toNat < 0x20) :
    codeUnit? '0' '0' (hexDigit (c.toNat / 16)) (hexDigit (c.toNat % 16)) = some c.toNat := by
  generalize c.toNat = unit at small
  interval_cases unit <;> rfl

theorem ofUnit_control (small : c.toNat < 0x20) : Piece.ofUnit c.toNat = .char c := by
  have single : (isLeadUnit c.toNat || isTrailUnit c.toNat) = false := by
    simp only [isLeadUnit, isTrailUnit, Bool.or_eq_false_iff, Bool.and_eq_false_iff,
      decide_eq_false_iff_not]
    omega
  rw [Piece.ofUnit, single, Char.ofNat_toNat]
  rfl

/-- A character that needs no escape stands for itself. -/
theorem pieces?_plain (quote : c ≠ '"') (backslash : c ≠ '\\') (printable : ¬c.toNat < 0x20) :
    pieces? (c :: rest) = (pieces? rest).map fun (pieces, rest) => (.char c :: pieces, rest) := by
  rw [pieces?, if_neg printable]
  · exact fun same => quote same
  · exact fun _ _ _ _ _ same => absurd same backslash
  · exact fun _ _ same => absurd same backslash

theorem pieces?_short {short : Char} (known : shortEscape? short = some c) (unit : short ≠ 'u') :
    pieces? ('\\' :: short :: rest) =
      (pieces? rest).map fun (pieces, rest) => (.char c :: pieces, rest) := by
  rw [pieces?, known]
  · cases pieces? rest with
    | none => rfl
    | some read => rfl
  · exact fun _ _ _ _ _ same => absurd same unit

theorem pieces?_control (small : c.toNat < 0x20) :
    pieces? ('\\' :: 'u' :: '0' :: '0' :: hexDigit (c.toNat / 16) :: hexDigit (c.toNat % 16) ::
      rest) = (pieces? rest).map fun (pieces, rest) => (.char c :: pieces, rest) := by
  rw [pieces?, codeUnit?_control small]
  cases pieces? rest with
  | none => rfl
  | some read =>
      obtain ⟨pieces, rest⟩ := read
      simp [ofUnit_control small]

/-- A character has a short escape, or is some other control character, or needs no escape. -/
theorem escape_cases (c : Char) :
    (∃ short, escape c = ['\\', short] ∧ shortEscape? short = some c ∧ short ≠ 'u') ∨
    (c.toNat < 0x20 ∧ escape c =
      ['\\', 'u', '0', '0', hexDigit (c.toNat / 16), hexDigit (c.toNat % 16)]) ∨
    (escape c = [c] ∧ c ≠ '"' ∧ c ≠ '\\' ∧ ¬c.toNat < 0x20) := by
  by_cases named : c ∈ ['"', '\\', '\n', '\r', '\t', '\x08', '\x0c']
  · simp only [List.mem_cons, List.not_mem_nil, or_false] at named
    rcases named with rfl | rfl | rfl | rfl | rfl | rfl | rfl
    all_goals exact .inl ⟨_, rfl, rfl, by decide⟩
  · simp only [List.mem_cons, List.not_mem_nil, or_false, not_or] at named
    obtain ⟨quote, backslash, line, carriage, tab, back, form⟩ := named
    refine .inr ?_
    unfold escape
    rw [if_neg quote, if_neg backslash, if_neg line, if_neg carriage, if_neg tab, if_neg back,
      if_neg form]
    split
    · rename_i control
      exact .inl ⟨control, rfl⟩
    · rename_i printable
      exact .inr ⟨rfl, quote, backslash, printable⟩

theorem pieces?_escape (c : Char) (rest : List Char) : pieces? (escape c ++ rest) =
    (pieces? rest).map fun (pieces, rest) => (.char c :: pieces, rest) := by
  rcases escape_cases c with
    ⟨short, escaped, known, unit⟩ | ⟨control, escaped⟩ | ⟨escaped, quote, backslash, printable⟩
  · rw [escaped]
    exact pieces?_short known unit
  · rw [escaped]
    exact pieces?_control control
  · rw [escaped]
    exact pieces?_plain quote backslash printable

end Escapes

theorem pieces?_escapes (chars rest : List Char) :
    pieces? (chars.flatMap escape ++ '"' :: rest) = some (chars.map .char, rest) := by
  induction chars with
  | nil => rfl
  | cons c chars ih =>
      rw [List.flatMap_cons, List.append_assoc, pieces?_escape, ih]
      rfl

theorem chars?_map_char (chars : List Char) : Piece.chars? (chars.map .char) = some chars := by
  induction chars with
  | nil => rfl
  | cons c chars ih =>
      rw [List.map_cons, Piece.chars?, ih]
      rfl

/-- A quoted text is read back as a whole, up to its closing quote. -/
theorem stringBody?_escapes (text : String) (rest : List Char) :
    stringBody? (text.toList.flatMap escape ++ '"' :: rest) = some (some text, rest) := by
  rw [stringBody?, pieces?_escapes]
  simp [chars?_map_char]

theorem stringBody?_quoted (text : String) (rest : List Char) :
    ∃ body, quoted text ++ rest = '"' :: body ∧ stringBody? body = some (some text, rest) :=
  ⟨text.toList.flatMap escape ++ '"' :: rest, by simp [quoted], stringBody?_escapes text rest⟩

end GpuSharing.Json
