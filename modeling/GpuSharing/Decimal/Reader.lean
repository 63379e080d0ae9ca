/-!
# Reading numbers

The grammars of whole numbers and of doubles in attribute files, option values
and tool reports. Neither allows blanks around the number.
-/

set_option autoImplicit false

namespace GpuSharing.Decimal

def digitValue (c : Char) : Nat := c.toNat - '0'.toNat

def digitsValue (digits : List Char) : Nat :=
  digits.foldl (fun value c => 10 * value + digitValue c) 0

def digitIn? (base : Nat) (c : Char) : Option Nat :=
  let value :=
    if c.isDigit then some (c.toNat - '0'.toNat)
    else if 'a' ≤ c ∧ c ≤ 'f' then some (c.toNat - 'a'.toNat + 10)
    else if 'A' ≤ c ∧ c ≤ 'F' then some (c.toNat - 'A'.toNat + 10)
    else none
  value.filter (· < base)

def natIn? (base : Nat) (chars : List Char) : Option Nat :=
  let digits := match chars with
    | '+' :: rest => rest
    | _ => chars
  if digits.isEmpty then none
  else digits.foldl (fun value c =>
    value.bind fun v => (digitIn? base c).map fun d => base * v + d) (some 0)

def natBelow? (limit : Nat) (text : String) : Option Nat :=
  (natIn? 10 text.toList).filter (· < limit)

def uint64? (text : String) : Option UInt64 :=
  (natBelow? UInt64.size text).map UInt64.ofNat

/-- `significand · 10^exponent` rounded to the nearest double, a half to the even
one. Far outside the range of doubles the answer is known without the power. -/
def nearestFloat (significand : Nat) (exponent : Int) : Float :=
  let magnitude := (toString significand).length + exponent
  if significand = 0 ∨ magnitude < -330 then 0.0
  else if 310 < magnitude then 1.0 / 0.0
  else if 0 ≤ exponent then Float.ofScientific significand false exponent.toNat
  else Float.ofScientific significand true (-exponent).toNat

def exponentPart? : List Char → Option Int
  | [] => some 0
  | mark :: rest =>
      if mark = 'e' ∨ mark = 'E' then
        let (negative, digits) := match rest with
          | '-' :: digits => (true, digits)
          | '+' :: digits => (false, digits)
          | digits => (false, digits)
        if digits.isEmpty || !digits.all Char.isDigit then none
        else
          let value : Int := digitsValue digits
          some (if negative then -value else value)
      else none

/-- A decimal without a sign: digits with at most one point among them, at least
one digit, and an optional exponent. -/
def unsignedFloat? (chars : List Char) : Option Float :=
  let whole := chars.takeWhile Char.isDigit
  let afterWhole := chars.dropWhile Char.isDigit
  let (fraction, rest) := match afterWhole with
    | '.' :: tail => (tail.takeWhile Char.isDigit, tail.dropWhile Char.isDigit)
    | _ => ([], afterWhole)
  if whole.isEmpty && fraction.isEmpty then none
  else (exponentPart? rest).map fun exponent =>
    nearestFloat (digitsValue (whole ++ fraction)) (exponent - fraction.length)

/-- A double: an optional sign, then a decimal or one of the names `inf`,
`infinity` and `nan` in any case. -/
def float? (text : String) : Option Float :=
  let (negative, chars) := match text.toList with
    | '-' :: rest => (true, rest)
    | '+' :: rest => (false, rest)
    | chars => (false, chars)
  let magnitude :=
    match String.ofList (chars.map Char.toLower) with
    | "inf" => some (1.0 / 0.0)
    | "infinity" => some (1.0 / 0.0)
    | "nan" => some (0.0 / 0.0)
    | _ => unsignedFloat? chars
  magnitude.map fun value => if negative then -value else value

end GpuSharing.Decimal
