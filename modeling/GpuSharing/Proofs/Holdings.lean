import GpuSharing.Pool
import GpuSharing.Proofs.Naming

/-!
# What allocations hold together

Sums over a list of allocations, counted without a bound, so that a sum that is
kept in a machine word can be compared with them. Taking allocations off a list
lowers its sums by exactly what was taken.
-/

set_option autoImplicit false

namespace GpuSharing

namespace Share

private theorem toNat_foldl_add (shares : List Share) (start : Share) :
    (shares.foldl add start).millis.toNat =
      min (start.millis.toNat + (shares.map (·.millis.toNat)).sum) (UInt32.size - 1) := by
  induction shares generalizing start with
  | nil =>
      have bound := start.millis.toNat_lt
      simp only [List.foldl_nil, List.map_nil, List.sum_nil, UInt32.size]
      omega
  | cons share rest ih =>
      rw [List.foldl_cons, ih, add, toNat_ofNat, List.map_cons, List.sum_cons]
      omega

/-- Adding shares up saturates once, however many there are. -/
theorem toNat_sum (shares : List Share) :
    (sum shares).millis.toNat = min (shares.map (·.millis.toNat)).sum (UInt32.size - 1) := by
  simpa [sum, zero] using toNat_foldl_add shares zero

end Share

/-- The sum of one quantity over a list of allocations. -/
def totalOf (quantity : GpuAllocation → Nat) (allocations : List GpuAllocation) : Nat :=
  (allocations.map quantity).sum

def totalMillis : List GpuAllocation → Nat := totalOf (·.share.millis.toNat)

def totalMemory : List GpuAllocation → Nat := totalOf (·.memoryMib.toNat)

section Sums

variable (quantity : GpuAllocation → Nat)

@[simp] theorem totalOf_nil : totalOf quantity [] = 0 := rfl

@[simp] theorem totalOf_cons (allocation : GpuAllocation) (rest : List GpuAllocation) :
    totalOf quantity (allocation :: rest) = quantity allocation + totalOf quantity rest := by
  simp [totalOf]

@[simp] theorem totalOf_append (first second : List GpuAllocation) :
    totalOf quantity (first ++ second) = totalOf quantity first + totalOf quantity second := by
  simp [totalOf]

theorem totalOf_takeAllocation? {id : String} {allocations left : List GpuAllocation}
    {taken : GpuAllocation} (found : takeAllocation? id allocations = some (taken, left)) :
    totalOf quantity allocations = quantity taken + totalOf quantity left := by
  obtain ⟨_, before, after, rfl, rfl, _⟩ := takeAllocation?_eq_some found
  simp only [totalOf_append, totalOf_cons]
  omega

theorem totalOf_filter_le (keep : GpuAllocation → Bool) (allocations : List GpuAllocation) :
    totalOf quantity (allocations.filter keep) ≤ totalOf quantity allocations := by
  induction allocations with
  | nil => exact Nat.le_refl 0
  | cons head rest ih =>
      cases kept : keep head with
      | true =>
          rw [List.filter_cons_of_pos kept]
          simpa only [totalOf_cons] using Nat.add_le_add_left ih _
      | false =>
          rw [List.filter_cons_of_neg (by simp [kept])]
          simp only [totalOf_cons]
          omega

theorem quantity_le_totalOf {allocation : GpuAllocation} {allocations : List GpuAllocation}
    (member : allocation ∈ allocations) : quantity allocation ≤ totalOf quantity allocations := by
  obtain ⟨before, after, rfl⟩ := List.append_of_mem member
  simp only [totalOf_append, totalOf_cons]
  omega

/-- One quantity in proportion to another adds up in proportion to it. -/
theorem totalOf_eq_mul {first second : GpuAllocation → Nat} {factor : Nat}
    {allocations : List GpuAllocation}
    (each : ∀ live ∈ allocations, first live = factor * second live) :
    totalOf first allocations = factor * totalOf second allocations := by
  induction allocations with
  | nil => rfl
  | cons head rest ih =>
      rw [totalOf_cons, totalOf_cons, Nat.mul_add, each head List.mem_cons_self,
        ih fun live member => each live (List.mem_cons_of_mem _ member)]

end Sums

section Names

theorem mem_of_takeAllocation? {id : String} {allocations left : List GpuAllocation}
    {taken : GpuAllocation} (found : takeAllocation? id allocations = some (taken, left)) :
    taken ∈ allocations := by
  obtain ⟨_, before, after, rfl, rfl, _⟩ := takeAllocation?_eq_some found
  exact List.mem_append_right before List.mem_cons_self

/-- Where names are given once, taking a name leaves all allocations of other names. -/
theorem takeAllocation?_left {id : String} {allocations left : List GpuAllocation}
    {taken : GpuAllocation} (distinct : (allocations.map (·.id)).Nodup)
    (found : takeAllocation? id allocations = some (taken, left)) :
    left = allocations.filter (·.id ≠ id) := by
  obtain ⟨name, before, after, rfl, rfl, absent⟩ := takeAllocation?_eq_some found
  rw [List.map_append, List.map_cons, List.nodup_append, List.nodup_cons] at distinct
  obtain ⟨_, ⟨absentAfter, _⟩, _⟩ := distinct
  have keepsBefore : before.filter (·.id ≠ id) = before :=
    List.filter_eq_self.mpr fun other member => by
      simpa using fun same : other.id = id => absent (same ▸ List.mem_map_of_mem member)
  have keepsAfter : after.filter (·.id ≠ id) = after :=
    List.filter_eq_self.mpr fun other member => by
      simpa using fun same : other.id = id =>
        absentAfter (name ▸ same ▸ List.mem_map_of_mem member)
  rw [List.filter_append, List.filter_cons_of_neg (by simp [name]), keepsBefore, keepsAfter]

/-- What came last under a new name is taken out again, and nothing else. -/
theorem takeAllocation?_append {allocations : List GpuAllocation} {allocation : GpuAllocation}
    (fresh : allocation.id ∉ allocations.map (·.id)) :
    takeAllocation? allocation.id (allocations ++ [allocation]) = some (allocation, allocations) := by
  induction allocations with
  | nil => simp [takeAllocation?]
  | cons head rest ih =>
      rw [List.map_cons, List.mem_cons, not_or] at fresh
      simp [takeAllocation?, Ne.symm fresh.1, ih fresh.2]

theorem nodup_filter {allocations : List GpuAllocation} (keep : GpuAllocation → Bool)
    (distinct : (allocations.map (·.id)).Nodup) :
    ((allocations.filter keep).map (·.id)).Nodup :=
  distinct.sublist (List.filter_sublist.map _)

theorem filter_names {allocations : List GpuAllocation} (keep : String → Bool) :
    (allocations.filter (keep ·.id)).map (·.id) = (allocations.map (·.id)).filter keep := by
  rw [List.filter_map]
  rfl

theorem nodup_append_singleton {allocations : List GpuAllocation} {allocation : GpuAllocation}
    (distinct : (allocations.map (·.id)).Nodup) (fresh : allocation.id ∉ allocations.map (·.id)) :
    ((allocations ++ [allocation]).map (·.id)).Nodup := by
  rw [List.map_append, List.map_singleton, ← List.concat_eq_append]
  exact List.Nodup.concat fresh distinct

theorem eq_of_id_eq {allocations : List GpuAllocation} {first second : GpuAllocation}
    (distinct : (allocations.map (·.id)).Nodup) (firstMember : first ∈ allocations)
    (secondMember : second ∈ allocations) (same : first.id = second.id) : first = second :=
  List.inj_on_of_nodup_map distinct firstMember secondMember same

theorem id_mem_filter {allocations : List GpuAllocation} {live : GpuAllocation}
    (distinct : (allocations.map (·.id)).Nodup) (member : live ∈ allocations)
    (keep : GpuAllocation → Bool) :
    live.id ∈ (allocations.filter keep).map (·.id) ↔ keep live = true := by
  constructor
  · intro named
    obtain ⟨other, kept, same⟩ := List.mem_map.mp named
    obtain ⟨otherMember, otherKept⟩ := List.mem_filter.mp kept
    exact eq_of_id_eq distinct otherMember member same ▸ otherKept
  · exact fun kept => List.mem_map_of_mem (List.mem_filter.mpr ⟨member, kept⟩)

theorem id_mem_filter_ne {allocations : List GpuAllocation} {id gone : String} :
    id ∈ (allocations.filter (·.id ≠ gone)).map (·.id) ↔
      id ∈ allocations.map (·.id) ∧ id ≠ gone := by
  simp only [List.mem_map, List.mem_filter, decide_eq_true_eq]
  constructor
  · rintro ⟨live, ⟨member, differs⟩, rfl⟩
    exact ⟨⟨live, member, rfl⟩, differs⟩
  · rintro ⟨⟨live, member, rfl⟩, differs⟩
    exact ⟨live, ⟨member, differs⟩, rfl⟩

theorem filter_holder_congr {first second : String → Bool} {holder : Option String}
    (same : ∀ id, holder = some id → first id = second id) :
    holder.filter first = holder.filter second := by
  cases holder with
  | none => rfl
  | some id => rw [Option.filter_some, Option.filter_some, same id rfl]

theorem filter_holder_all (holder : Option String) : holder.filter (fun _ => true) = holder := by
  cases holder with
  | none => rfl
  | some id => rfl

theorem filter_holder_ne (holder : Option String) (id : String) :
    holder.filter (· ≠ id) = if holder = some id then none else holder := by
  cases holder with
  | none => rfl
  | some other =>
      by_cases same : other = id
      · rw [Option.filter_some_neg (by simpa using same), if_pos (congrArg some same)]
      · rw [Option.filter_some_pos (by simpa using same),
          if_neg fun equal => same (Option.some.inj equal)]

end Names

namespace SharePool

private theorem toNat_foldl_add (counts : List UInt64) (start : UInt64) :
    (counts.foldl (· + ·) start).toNat =
      (start.toNat + (counts.map UInt64.toNat).sum) % UInt64.size := by
  induction counts generalizing start with
  | nil => simp
  | cons count rest ih =>
      rw [List.foldl_cons, ih, List.map_cons, List.sum_cons, UInt64.toNat_add]
      simp only [UInt64.size]
      omega

theorem toNat_memoryUsedMib (pool : SharePool) :
    pool.memoryUsedMib.toNat = (pool.allocations.map (·.memoryMib.toNat)).sum % UInt64.size := by
  rw [memoryUsedMib, toNat_foldl_add, List.map_map]
  simp [Function.comp_def]

theorem toNat_shareUsed (pool : SharePool) :
    pool.shareUsed.millis.toNat = min (totalMillis pool.allocations) (UInt32.size - 1) := by
  rw [shareUsed, Share.toNat_sum, List.map_map]
  rfl

theorem toNat_memoryUsedMib_eq {pool : SharePool}
    (fits : totalMemory pool.allocations < UInt64.size) :
    pool.memoryUsedMib.toNat = totalMemory pool.allocations := by
  rw [toNat_memoryUsedMib]
  exact Nat.mod_eq_of_lt fits

end SharePool

end GpuSharing
