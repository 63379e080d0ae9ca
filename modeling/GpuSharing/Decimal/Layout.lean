import GpuSharing.Decimal.Shortest

/-!
# Texts of a double

How the shortest digits are laid out: messages never use an exponent, while notes
and reports keep a point in whole numbers and turn to an exponent for very large
and very small ones.
-/

set_option autoImplicit false

namespace GpuSharing.Decimal

structure Layout where
  /-- Whole numbers end in `.0`. -/
  pointZero : Bool
  /-- Numbers whose leading digit has an exponent outside these bounds are written
  with an exponent. The lower bound is allowed, the upper one is not. -/
  positional : Option (Int × Int)

/-- Fractions in messages: as short as possible, and never an exponent. -/
def Layout.plain : Layout := ⟨false, none⟩

/-- Readings in notes: always a point, positional from 10^-4 to below 10^16. -/
def Layout.reading : Layout := ⟨true, some (-4, 16)⟩

/-- Numbers in reports: always a point, positional from 10^-5 to below 10^16. -/
def Layout.report : Layout := ⟨true, some (-5, 16)⟩

private def zeros (count : Nat) : String :=
  String.ofList (List.replicate count '0')

def Layout.positionalText (layout : Layout) (digits : String) (exponent : Int) : String :=
  let count : Int := digits.length
  let point := count + exponent
  if 0 ≤ exponent then
    digits ++ zeros exponent.toNat ++ (if layout.pointZero then ".0" else "")
  else if 0 < point then
    String.ofList (digits.toList.take point.toNat) ++ "." ++
      String.ofList (digits.toList.drop point.toNat)
  else "0." ++ zeros (-point).toNat ++ digits

def scientificText (digits : String) (exponent : Int) : String :=
  let leading := digits.length + exponent - 1
  let mantissa := match digits.toList with
    | [] => "0"
    | [digit] => String.ofList [digit]
    | digit :: rest => String.ofList (digit :: '.' :: rest)
  mantissa ++ "e" ++ toString leading

def Layout.magnitude (layout : Layout) (significand exponent : Nat) : String :=
  if significand = 0 then (if layout.pointZero then "0.0" else "0")
  else
    let decimal := shortest significand exponent
    let digits := toString decimal.significand
    let leading := digits.length + decimal.exponent - 1
    match layout.positional with
    | some (low, high) =>
        if low ≤ leading ∧ leading < high then layout.positionalText digits decimal.exponent
        else scientificText digits decimal.exponent
    | none => layout.positionalText digits decimal.exponent

def Layout.render (layout : Layout) (value : Float) : String :=
  match Binary64.ofFloat value with
  | .nan => "NaN"
  | .infinite negative => if negative then "-inf" else "inf"
  | .finite negative significand exponent =>
      (if negative then "-" else "") ++ layout.magnitude significand exponent

end GpuSharing.Decimal
