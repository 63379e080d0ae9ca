import GpuSharing.Decimal.Reader

/-!
# The natural order of device names

Names are compared by what stands before their trailing digits, then by the number
that these digits write, so that `card2` comes before `card10`.
-/

set_option autoImplicit false

namespace GpuSharing

structure NaturalKey where
  stem : String
  number : Nat
  deriving DecidableEq, Repr

namespace NaturalKey

/-- Splits off the trailing digits. No digits, or too many for 64 bits, count as zero. -/
def ofName (name : String) : NaturalKey :=
  let reversed := name.toList.reverse
  let digits := (reversed.takeWhile Char.isDigit).reverse
  let stem := (reversed.dropWhile Char.isDigit).reverse
  ⟨String.ofList stem, (Decimal.natBelow? UInt64.size (String.ofList digits)).getD 0⟩

def le (a b : NaturalKey) : Bool :=
  a.stem < b.stem || (a.stem = b.stem && a.number ≤ b.number)

end NaturalKey

def naturalSort {α : Type} (name : α → String) (values : List α) : List α :=
  values.mergeSort fun a b => (NaturalKey.ofName (name a)).le (.ofName (name b))

end GpuSharing
