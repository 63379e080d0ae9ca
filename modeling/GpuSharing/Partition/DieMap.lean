import GpuSharing.Partition.Config

/-!
# Owners of compute dies

Which allocation holds each compute die of a divided device. Dies are claimed from
the lowest free one on and released by their owner's name.
-/

set_option autoImplicit false

namespace GpuSharing

/-- A compute die, by its position on the device. -/
abbrev Die := Fin dieCount

def Die.index (die : Die) : UInt8 := UInt8.ofNat die.val

structure DieMap where
  owners : Vector (Option String) dieCount
  deriving DecidableEq, Repr

namespace DieMap

def empty : DieMap := ⟨Vector.replicate dieCount none⟩

def ownerOf (map : DieMap) (die : Die) : Option String := map.owners[die]

def diesWhere (map : DieMap) (accepts : Option String → Bool) : List Die :=
  (List.finRange dieCount).filter fun die => accepts (map.ownerOf die)

def freeDies (map : DieMap) : List Die := map.diesWhere (· = none)

def diesOf (map : DieMap) (owner : String) : List Die := map.diesWhere (· = some owner)

def freeCount (map : DieMap) : Nat := map.freeDies.length

def claimedCount (map : DieMap) : Nat := dieCount - map.freeCount

def assign (map : DieMap) (dies : List Die) (owner : Option String) : DieMap :=
  ⟨Vector.ofFn fun die => if dies.contains die then owner else map.ownerOf die⟩

/-- Takes the lowest free dies for an owner, unless too few are free. -/
def claim? (map : DieMap) (owner : String) (count : Nat) : Option (List Die × DieMap) :=
  if map.freeCount < count then none
  else
    let taken := map.freeDies.take count
    some (taken, map.assign taken (some owner))

/-- Frees all dies of an owner and names them. -/
def release (map : DieMap) (owner : String) : List Die × DieMap :=
  let freed := map.diesOf owner
  (freed, map.assign freed none)

@[simp] theorem ownerOf_empty (die : Die) : empty.ownerOf die = none := by
  simp [ownerOf, empty]

@[simp] theorem ownerOf_assign (map : DieMap) (dies : List Die) (owner : Option String)
    (die : Die) :
    (map.assign dies owner).ownerOf die = if dies.contains die then owner else map.ownerOf die := by
  simp [ownerOf, assign]

theorem ext_ownerOf {first second : DieMap}
    (agree : ∀ die, first.ownerOf die = second.ownerOf die) : first = second := by
  cases first with
  | mk owners =>
      cases second with
      | mk others =>
          congr 1
          exact Vector.ext fun index bound => agree ⟨index, bound⟩

theorem mem_diesOf {map : DieMap} {owner : String} {die : Die} :
    die ∈ map.diesOf owner ↔ map.ownerOf die = some owner := by
  simp [diesOf, diesWhere, List.mem_finRange]

theorem mem_freeDies {map : DieMap} {die : Die} :
    die ∈ map.freeDies ↔ map.ownerOf die = none := by
  simp [freeDies, diesWhere, List.mem_finRange]

end DieMap

end GpuSharing
