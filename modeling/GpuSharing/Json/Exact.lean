import GpuSharing.Json.Basic

/-!
# Exact doubles

A form of values in which every double is the text of its bits, so that whoever reads
it cannot round it. All that are not a number are written alike.
-/

set_option autoImplicit false

namespace GpuSharing.Json

def bitsWidth : Nat := 16

def bitsText (value : Float) : String :=
  let digits := Nat.toDigits 16 value.toBits.toNat
  if value.isNaN then "f64:NaN"
  else "f64:" ++ String.ofList (List.replicate (bitsWidth - digits.length) '0' ++ digits)

mutual

/-- The value with doubles as texts. -/
def exact : Json → Json
  | .float value => .string (bitsText value)
  | .array items => .array (exactItems items)
  | .object members => .object (exactMembers members)
  | leaf => leaf

def exactItems : List Json → List Json
  | [] => []
  | item :: rest => item.exact :: exactItems rest

def exactMembers : List (String × Json) → List (String × Json)
  | [] => []
  | (name, value) :: rest => (name, value.exact) :: exactMembers rest

end

end GpuSharing.Json
