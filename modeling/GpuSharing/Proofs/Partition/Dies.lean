import GpuSharing.Partition.DieMap
import Mathlib

/-!
# Laws of die ownership

A claim gives an owner the lowest dies that were free, a release frees the dies of
one owner, and neither touches the dies of anyone else. Every die is free or has one
owner, so the counts of the owners and of the free dies add up to all dies.
-/

set_option autoImplicit false

namespace GpuSharing

namespace Die

theorem toNat_index (die : Die) : die.index.toNat = die.val := by
  rw [index, UInt8.toNat_ofNat']
  exact Nat.mod_eq_of_lt (Nat.lt_trans die.isLt (by decide))

theorem index_lt_iff {first second : Die} : first.index < second.index ↔ first < second := by
  rw [UInt8.lt_iff_toNat_lt, toNat_index, toNat_index]
  rfl

theorem index_inj {first second : Die} : first.index = second.index ↔ first = second := by
  rw [← UInt8.toNat_inj, toNat_index, toNat_index, Fin.ext_iff]

end Die

namespace DieMap

section Order

theorem pairwise_diesWhere (map : DieMap) (accepts : Option String → Bool) :
    (map.diesWhere accepts).Pairwise (· < ·) :=
  (List.pairwise_lt_finRange dieCount).filter _

/-- Lists of dies in ascending order are determined by their members. -/
theorem eq_of_mem_iff {first second : List Die} (firstAscending : first.Pairwise (· < ·))
    (secondAscending : second.Pairwise (· < ·))
    (same : ∀ die, die ∈ first ↔ die ∈ second) : first = second := by
  have distinct {dies : List Die} (ascending : dies.Pairwise (· < ·)) : dies.Nodup :=
    ascending.imp Fin.ne_of_lt
  have reordered : first.Perm second :=
    (List.perm_ext_iff_of_nodup (distinct firstAscending) (distinct secondAscending)).mpr same
  exact reordered.eq_of_pairwise
    (fun _ _ _ _ below above => absurd above (Fin.lt_asymm below)) firstAscending secondAscending

theorem diesOf_eq {map other : DieMap} {owner : String}
    (agree : ∀ die, other.ownerOf die = some owner ↔ map.ownerOf die = some owner) :
    other.diesOf owner = map.diesOf owner :=
  eq_of_mem_iff (pairwise_diesWhere other _) (pairwise_diesWhere map _) fun die => by
    rw [mem_diesOf, mem_diesOf, agree]

@[simp] theorem diesOf_empty (owner : String) : empty.diesOf owner = [] :=
  List.eq_nil_iff_forall_not_mem.mpr fun die member => by simp [mem_diesOf] at member

end Order

section Claims

variable {map next : DieMap} {owner : String} {count : Nat} {taken : List Die}

theorem claim?_eq_some : map.claim? owner count = some (taken, next) ↔
    count ≤ map.freeCount ∧ taken = map.freeDies.take count ∧
      next = map.assign taken (some owner) := by
  unfold claim?
  by_cases few : map.freeCount < count
  · simp only [few, ↓reduceIte, reduceCtorEq, false_iff]
    omega
  · simp only [few, ↓reduceIte, Option.some.injEq, Prod.mk.injEq]
    constructor
    · rintro ⟨rfl, rfl⟩
      exact ⟨Nat.le_of_not_lt few, rfl, rfl⟩
    · rintro ⟨_, rfl, rfl⟩
      exact ⟨rfl, rfl⟩

theorem length_claim? (claimed : map.claim? owner count = some (taken, next)) :
    taken.length = count := by
  obtain ⟨enough, rfl, _⟩ := claim?_eq_some.mp claimed
  exact List.length_take_of_le enough

theorem pairwise_claim? (claimed : map.claim? owner count = some (taken, next)) :
    taken.Pairwise (· < ·) := by
  obtain ⟨_, rfl, _⟩ := claim?_eq_some.mp claimed
  exact (pairwise_diesWhere map _).sublist (List.take_sublist _ _)

theorem free_of_claim? (claimed : map.claim? owner count = some (taken, next)) {die : Die}
    (member : die ∈ taken) : map.ownerOf die = none := by
  obtain ⟨_, rfl, _⟩ := claim?_eq_some.mp claimed
  exact mem_freeDies.mp (List.mem_of_mem_take member)

/-- A claim leaves no free die below one that it takes. -/
theorem lowest_of_claim? (claimed : map.claim? owner count = some (taken, next))
    {die left : Die} (member : die ∈ taken) (free : map.ownerOf left = none)
    (untaken : left ∉ taken) : die < left := by
  obtain ⟨_, rfl, _⟩ := claim?_eq_some.mp claimed
  have ascending := pairwise_diesWhere map (· = none)
  rw [← List.take_append_drop count (map.diesWhere _), List.pairwise_append] at ascending
  have listed := mem_freeDies.mpr free
  rw [← List.take_append_drop count map.freeDies, List.mem_append] at listed
  rcases listed with early | late
  · exact absurd early untaken
  · exact ascending.2.2 die member left late

theorem ownerOf_claim? (claimed : map.claim? owner count = some (taken, next)) (die : Die) :
    next.ownerOf die = if die ∈ taken then some owner else map.ownerOf die := by
  obtain ⟨_, _, rfl⟩ := claim?_eq_some.mp claimed
  simp

theorem diesOf_claim? (claimed : map.claim? owner count = some (taken, next))
    (unknown : ∀ die, map.ownerOf die ≠ some owner) : next.diesOf owner = taken := by
  refine eq_of_mem_iff (pairwise_diesWhere next _) (pairwise_claim? claimed) fun die => ?_
  rw [mem_diesOf, ownerOf_claim? claimed]
  split
  · rename_i member
    simp [member]
  · rename_i untaken
    simp [untaken, unknown]

theorem diesOf_claim?_of_ne (claimed : map.claim? owner count = some (taken, next))
    {other : String} (different : other ≠ owner) : next.diesOf other = map.diesOf other := by
  refine diesOf_eq fun die => ?_
  rw [ownerOf_claim? claimed]
  split
  · rename_i member
    simp [free_of_claim? claimed member, Ne.symm different]
  · rfl

end Claims

section Releases

theorem ownerOf_release (map : DieMap) (owner : String) (die : Die) :
    (map.release owner).2.ownerOf die =
      if map.ownerOf die = some owner then none else map.ownerOf die := by
  simp [release, mem_diesOf]

/-- Whoever has no die gives none back. -/
theorem release_of_unknown {map : DieMap} {owner : String}
    (unknown : ∀ die, map.ownerOf die ≠ some owner) : (map.release owner).2 = map := by
  refine ext_ownerOf fun die => ?_
  rw [ownerOf_release, if_neg (unknown die)]

/-- A claim that is given back leaves the dies with those who had them. -/
theorem release_claim? {map next : DieMap} {owner : String} {count : Nat} {taken : List Die}
    (claimed : map.claim? owner count = some (taken, next))
    (unknown : ∀ die, map.ownerOf die ≠ some owner) : (next.release owner).2 = map := by
  refine ext_ownerOf fun die => ?_
  rw [ownerOf_release, ownerOf_claim? claimed]
  by_cases member : die ∈ taken
  · simp [member, free_of_claim? claimed member]
  · simp [member, unknown die]

/-- Releasing several owners leaves the dies of all others with them. -/
theorem ownerOf_foldl_release {α : Type} (name : α → String) (items : List α) (map : DieMap)
    (die : Die) {owner : String} :
    (items.foldl (fun rest item => (rest.release (name item)).2) map).ownerOf die = some owner ↔
      map.ownerOf die = some owner ∧ owner ∉ items.map name := by
  induction items generalizing map with
  | nil => simp
  | cons item rest ih =>
      rw [List.foldl_cons, ih, ownerOf_release, List.map_cons, List.mem_cons, not_or]
      by_cases released : map.ownerOf die = some (name item)
      · simp only [released, ↓reduceIte, reduceCtorEq, false_and, Option.some.injEq, false_iff]
        rintro ⟨same, different, _⟩
        exact different same.symm
      · simp only [released, ↓reduceIte]
        constructor
        · rintro ⟨held, kept⟩
          exact ⟨held, fun same => released (same ▸ held), kept⟩
        · rintro ⟨held, _, kept⟩
          exact ⟨held, kept⟩

end Releases

/-- The dies of the owners and the free dies are all dies, each of them once. -/
theorem perm_finRange {map : DieMap} {owners : List String} (distinct : owners.Nodup)
    (complete : ∀ die owner, map.ownerOf die = some owner → owner ∈ owners) :
    (owners.flatMap map.diesOf ++ map.freeDies).Perm (List.finRange dieCount) := by
  have once (accepts : Option String → Bool) : (map.diesWhere accepts).Nodup :=
    (pairwise_diesWhere map accepts).imp Fin.ne_of_lt
  -- Neither side repeats a die, so that it is enough to compare their members.
  refine (List.perm_ext_iff_of_nodup ?_ (List.nodup_finRange dieCount)).mpr fun die => ?_
  · rw [List.nodup_append]
    refine ⟨List.pairwise_flatMap.mpr ⟨fun owner _ => once _, ?_⟩, once _, ?_⟩
    · refine distinct.imp fun {first second} different => ?_
      intro die held other otherHeld same
      rw [same, mem_diesOf, mem_diesOf.mp otherHeld] at held
      exact different (Option.some.inj held).symm
    · intro die held other free same
      obtain ⟨owner, _, owned⟩ := List.mem_flatMap.mp held
      rw [same, mem_diesOf, mem_freeDies.mp free] at owned
      cases owned
  · refine ⟨fun _ => List.mem_finRange die, fun _ => ?_⟩
    rw [List.mem_append, List.mem_flatMap]
    cases owned : map.ownerOf die with
    | none => exact .inr (mem_freeDies.mpr owned)
    | some owner => exact .inl ⟨owner, complete die owner owned, mem_diesOf.mpr owned⟩

theorem sum_length_diesOf {map : DieMap} {owners : List String} (distinct : owners.Nodup)
    (complete : ∀ die owner, map.ownerOf die = some owner → owner ∈ owners) :
    (owners.map fun owner => (map.diesOf owner).length).sum + map.freeCount = dieCount := by
  have total := (perm_finRange distinct complete).length_eq
  rwa [List.length_append, List.length_flatMap, List.length_finRange] at total

end DieMap

end GpuSharing
