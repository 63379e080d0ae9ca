import GpuSharing.Proofs.Partition.Dies

/-!
# Dies between a claim and its release

A map of dies is used by claims and releases of any owners, in any order. What an owner
claims is its own until it gives it back: nothing that other owners do in between adds to
its dies or takes one away.
-/

set_option autoImplicit false

namespace GpuSharing.DieMap

inductive Operation where
  | claim (owner : String) (count : Nat)
  | release (owner : String)

def Operation.owner : Operation → String
  | claim owner _ => owner
  | release owner => owner

/-- The map after one use of it. A claim that fails leaves it alone. -/
def perform (map : DieMap) : Operation → DieMap
  | .claim owner count => ((map.claim? owner count).map (·.2)).getD map
  | .release owner => (map.release owner).2

def run (map : DieMap) (operations : List Operation) : DieMap := operations.foldl perform map

/-- The dies without an owner. -/
def free (map : DieMap) : Finset Die := {die | map.ownerOf die = none}

section Counting

variable {map : DieMap} {owner : String} {count : Nat}

theorem freeCount_eq_card (map : DieMap) : map.freeCount = map.free.card := by
  have once : map.freeDies.Nodup := (pairwise_diesWhere map _).imp Fin.ne_of_lt
  have same : map.freeDies.toFinset = map.free := by
    ext die
    simp [free, mem_freeDies]
  rw [← same, List.toFinset_card_of_nodup once, freeCount]

theorem claim?_eq_none : map.claim? owner count = none ↔ map.free.card < count := by
  unfold claim?
  rw [freeCount_eq_card]
  split <;> simp_all

theorem perform_claim_of_none (failed : map.claim? owner count = none) :
    map.perform (.claim owner count) = map := by
  rw [perform, failed]
  rfl

theorem perform_claim_of_some {taken : List Die} {next : DieMap}
    (claimed : map.claim? owner count = some (taken, next)) :
    map.perform (.claim owner count) = next := by
  rw [perform, claimed]
  rfl

end Counting

section OtherOwners

variable {map : DieMap} {owner : String}

/-- An operation of one owner leaves the dies of the others with them, and gives them none. -/
theorem ownerOf_perform {operation : Operation} (other : operation.owner ≠ owner) (die : Die) :
    (map.perform operation).ownerOf die = some owner ↔ map.ownerOf die = some owner := by
  cases operation with
  | claim claimer count =>
      cases claimed : map.claim? claimer count with
      | none => rw [perform_claim_of_none claimed]
      | some result =>
          obtain ⟨taken, next⟩ := result
          rw [perform_claim_of_some claimed, ownerOf_claim? claimed]
          -- A die that is claimed was free before, so it is taken from nobody.
          split
          · rename_i member
            rw [free_of_claim? claimed member, Option.some.injEq]
            exact ⟨fun same => absurd same other, nofun⟩
          · rfl
  | release leaver =>
      change (map.release leaver).2.ownerOf die = some owner ↔ _
      rw [ownerOf_release]
      split
      · rename_i left
        rw [left, Option.some.injEq]
        exact ⟨nofun, fun same => absurd same other⟩
      · rfl

theorem diesOf_run {operations : List Operation}
    (others : ∀ operation ∈ operations, operation.owner ≠ owner) :
    (map.run operations).diesOf owner = map.diesOf owner := by
  induction operations generalizing map with
  | nil => rfl
  | cons operation rest ih =>
      have later := @ih (map.perform operation) fun next listed =>
        others next (List.mem_cons_of_mem operation listed)
      exact later.trans (diesOf_eq (ownerOf_perform (others operation List.mem_cons_self)))

theorem unknown_of_diesOf (none : map.diesOf owner = []) (die : Die) :
    map.ownerOf die ≠ some owner := fun held =>
  List.not_mem_nil (none ▸ mem_diesOf.mpr held)

end OtherOwners

/-- What a claim gives: the lowest free dies, to its owner, and nothing else. -/
structure Gives (map : DieMap) (owner : String) (count : Nat) (taken : List Die)
    (next : DieMap) : Prop where
  length : taken.length = count
  ascending : taken.Pairwise (· < ·)
  free : ∀ die ∈ taken, map.ownerOf die = none
  lowest : ∀ die ∈ taken, ∀ left, map.ownerOf left = none → left ∉ taken → die < left
  ownerOf : ∀ die, next.ownerOf die = if die ∈ taken then some owner else map.ownerOf die

/-- What a release takes back: all dies of its owner, and nothing else. -/
structure Frees (map : DieMap) (owner : String) : Prop where
  ascending : (map.release owner).1.Pairwise (· < ·)
  listed : (map.release owner).1 = map.diesOf owner
  owned : ∀ die, die ∈ map.diesOf owner ↔ map.ownerOf die = some owner
  ownerOf : ∀ die, (map.release owner).2.ownerOf die =
    if die ∈ map.diesOf owner then none else map.ownerOf die

/-- The dies of a claim stay with its owner until it releases them, whatever other owners do in
between. The release leaves all other dies alone, and undoes the claim if nothing came between. -/
structure Returns (owner : String) (taken : List Die) (map next : DieMap) : Prop where
  same : ∀ others : List Operation, (∀ operation ∈ others, operation.owner ≠ owner) →
    ((next.run others).release owner).1 = taken
  elsewhere : ∀ others : List Operation, (∀ operation ∈ others, operation.owner ≠ owner) →
    ∀ die, (next.run others).ownerOf die ≠ some owner →
      ((next.run others).release owner).2.ownerOf die = (next.run others).ownerOf die
  restored : (next.release owner).2 = map

section Steps

variable {map next : DieMap} {owner : String} {count : Nat} {taken : List Die}

theorem gives_of_claim? (claimed : map.claim? owner count = some (taken, next)) :
    Gives map owner count taken next where
  length := length_claim? claimed
  ascending := pairwise_claim? claimed
  free := fun _ => free_of_claim? claimed
  lowest := fun _ member _ => lowest_of_claim? claimed member
  ownerOf := ownerOf_claim? claimed

theorem frees_release (map : DieMap) (owner : String) : Frees map owner where
  ascending := pairwise_diesWhere map (· = some owner)
  listed := rfl
  owned := fun _ => mem_diesOf
  ownerOf := fun die => by simp only [ownerOf_release, mem_diesOf]

theorem returns_of_claim? (claimed : map.claim? owner count = some (taken, next))
    (none : map.diesOf owner = []) : Returns owner taken map next where
  same := fun _ others =>
    (diesOf_run others).trans (diesOf_claim? claimed (unknown_of_diesOf none))
  elsewhere := fun _ _ die foreign => by rw [ownerOf_release, if_neg foreign]
  restored := release_claim? claimed (unknown_of_diesOf none)

end Steps

/-- What a map of dies promises of its next use. -/
structure KeepsTenure (map : DieMap) : Prop where
  refuses : ∀ owner count, map.claim? owner count = none ↔ map.free.card < count
  untouched : ∀ owner count, map.claim? owner count = none →
    map.perform (.claim owner count) = map
  gives : ∀ owner count taken next, map.claim? owner count = some (taken, next) →
    map.perform (.claim owner count) = next ∧ Gives map owner count taken next
  frees : ∀ owner, Frees map owner
  returns : ∀ owner count taken next, map.claim? owner count = some (taken, next) →
    map.diesOf owner = [] → Returns owner taken map next

/-- After any claims and releases, a claim fails exactly if it asks for more dies than are free,
and then changes nothing; else it gives the lowest free dies. A release frees what its owner has.
Whoever had nothing gets back, at its release, what it claimed. -/
theorem run_keepsTenure (operations : List Operation) : (empty.run operations).KeepsTenure where
  refuses := fun _ _ => claim?_eq_none
  untouched := fun _ _ => perform_claim_of_none
  gives := fun _ _ _ _ claimed => ⟨perform_claim_of_some claimed, gives_of_claim? claimed⟩
  frees := fun owner => frees_release _ owner
  returns := fun _ _ _ _ => returns_of_claim?

/-- Dies that are given back are the next to be claimed. -/
example : ((empty.run [.claim "a" 2, .claim "b" 3, .release "a"]).claim? "c" 4).map
    (fun claimed => claimed.1.map Die.index) = some [0, 1, 5, 6] := by decide +kernel

end GpuSharing.DieMap
