import GpuSharing.Decimal.Reader
import GpuSharing.Json.Basic

/-!
# Numbers in JSON text

Whole numbers that fit 64 bits are kept exactly. All others become doubles: the
leading digits that fit 64 bits are scaled by powers of ten, which is exact for
short numbers and may miss the nearest double for long ones.
-/

set_option autoImplicit false

namespace GpuSharing.Json

/-- Takes digits into a significand as long as it fits 64 bits. Returns it with the
number of digits that no longer fit. -/
def accumulate (significand : Nat) : List Char → Nat × Nat
  | [] => (significand, 0)
  | c :: rest =>
      let next := 10 * significand + Decimal.digitValue c
      if next < UInt64.size then accumulate next rest else (significand, rest.length + 1)

def greatestPower : Nat := 308

def powerOfTen (exponent : Nat) : Float := Float.ofScientific 1 false exponent

/-- `value · 10^exponent`, dividing by the greatest power as often as needed. There
is no result beyond the range of doubles. -/
def scale? (fuel : Nat) (value : Float) (exponent : Int) : Option Float :=
  if exponent.natAbs ≤ greatestPower then
    if 0 ≤ exponent then
      let scaled := value * powerOfTen exponent.toNat
      if scaled.isInf then none else some scaled
    else some (value / powerOfTen exponent.natAbs)
  else if value == 0.0 then some value
  else if 0 ≤ exponent then none
  else match fuel with
    | 0 => some 0.0
    | fuel + 1 => scale? fuel (value / powerOfTen greatestPower) (exponent + greatestPower)

structure NumberText where
  negative : Bool
  whole : List Char
  fraction : Option (List Char)
  exponent : Option (Bool × List Char)
  deriving DecidableEq, Repr

/-- Exponents from here on are not computed: the number is zero or out of range. -/
def exponentLimit : Nat := 2147483648

def NumberText.toFloat? (text : NumberText) : Option Float :=
  let (significand, dropped) := accumulate 0 text.whole
  let fraction := text.fraction.getD []
  let (significand, ignored) := accumulate significand fraction
  let place : Int := dropped - (fraction.length - ignored : Nat)
  let magnitude :=
    match text.exponent with
    | none => scale? 8 (UInt64.ofNat significand).toFloat place
    | some (negative, digits) =>
        let exponent := Decimal.digitsValue digits
        if exponentLimit ≤ exponent then
          if significand ≠ 0 && !negative then none else some 0.0
        else
          scale? 8 (UInt64.ofNat significand).toFloat
            (place + (if negative then -(exponent : Int) else exponent))
  magnitude.map fun value => if text.negative then -value else value

/-- Zero with a sign is a double, since no whole number carries the sign. -/
def NumberText.value (text : NumberText) : Json :=
  let asFloat := match text.toFloat? with
    | some value => .float value
    | none => .unreadable
  match text.fraction, text.exponent with
  | none, none =>
      let whole := Decimal.digitsValue text.whole
      if text.negative then
        if 0 < whole ∧ whole ≤ UInt64.size / 2 then .integer (-(whole : Int)) else asFloat
      else if whole < UInt64.size then .integer whole
      else asFloat
  | _, _ => asFloat

def someDigits? (chars : List Char) : Option (List Char × List Char) :=
  let digits := chars.takeWhile Char.isDigit
  if digits.isEmpty then none else some (digits, chars.dropWhile Char.isDigit)

def minus (chars : List Char) : Bool × List Char :=
  match chars with
  | '-' :: rest => (true, rest)
  | _ => (false, chars)

def fraction? (chars : List Char) : Option (Option (List Char) × List Char) :=
  match chars with
  | '.' :: rest => (someDigits? rest).map fun (digits, rest) => (some digits, rest)
  | _ => some (none, chars)

def exponent? (chars : List Char) : Option (Option (Bool × List Char) × List Char) :=
  match chars with
  | mark :: rest =>
      if mark = 'e' ∨ mark = 'E' then
        let (below, rest) := match rest with
          | '-' :: rest => (true, rest)
          | '+' :: rest => (false, rest)
          | _ => (false, rest)
        (someDigits? rest).map fun (digits, rest) => (some (below, digits), rest)
      else some (none, chars)
  | [] => some (none, chars)

/-- Splits a number off a text. A leading zero stands alone. -/
def numberText? (chars : List Char) : Option (NumberText × List Char) := do
  let (negative, chars) := minus chars
  let (whole, chars) ← someDigits? chars
  guard (whole.length = 1 || whole.head? ≠ some '0')
  let (fraction, chars) ← fraction? chars
  let (exponent, chars) ← exponent? chars
  pure (⟨negative, whole, fraction, exponent⟩, chars)

end GpuSharing.Json
