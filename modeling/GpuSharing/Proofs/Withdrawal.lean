import GpuSharing.Proofs.Fractional
import GpuSharing.Proofs.Partition.Allocator
import GpuSharing.Proofs.Turns.Scheduler

/-!
# Taking back what was just granted

A grant adds to the end of a list, takes dies that are free, waits at the end of a queue
and adds to a sum. A release that follows at once finds all of it where it was put, and
leaves the books as they were before.
-/

set_option autoImplicit false

namespace GpuSharing

theorem Ledger.release_enter {δ : Type} [Booked δ] {ledger : Ledger δ} {device : String}
    {books changed : δ} {allocation taken : GpuAllocation}
    (known : ledger.devices.get? device = some books)
    (unused : ledger.owners.get? allocation.id = none)
    (restored : Booked.remove? changed allocation.id = some (taken, books)) :
    ((ledger.enter device changed allocation).release allocation.id).2 = ledger := by
  have owner : (ledger.enter device changed allocation).owners.get? allocation.id = some device :=
    Keyed.get?_insert_self ..
  have found : (ledger.enter device changed allocation).devices.get? device = some changed :=
    Keyed.get?_insert_self ..
  simp only [release, owner, found, Option.bind_some, restored]
  simp only [enter, Keyed.insert_insert known, Keyed.erase_insert unused]

section Devices

theorem SharePool.remove?_push {pool : SharePool} {allocation : GpuAllocation}
    (fresh : allocation.id ∉ pool.allocations.map (·.id)) :
    (pool.push allocation).remove? allocation.id = some (allocation, pool) := by
  simp [remove?, push, takeAllocation?_append fresh]

/-- The dies of a grant were free, and nobody else has taken any since. -/
theorem PartitionedDevice.Accounted.remove?_push {device claimed : PartitionedDevice}
    {allocation granted : GpuAllocation} (accounted : device.Accounted)
    (claim : device.claim? allocation = some (granted, claimed))
    (fresh : granted.id ∉ device.pool.allocations.map (·.id)) :
    remove? { claimed with pool := claimed.pool.push granted } granted.id =
      some (granted, device) := by
  have unknown (die : Die) : device.dies.ownerOf die ≠ some granted.id :=
    fun held => fresh (accounted.owned die _ held)
  rw [remove?_eq_some]
  rcases claim?_cases claim with
    ⟨_, rfl, rfl⟩ | ⟨_, taken, dies, claimedDies, rfl, rfl⟩
  · exact ⟨claimed.pool, SharePool.remove?_push fresh, by rw [DieMap.release_of_unknown unknown]⟩
  · exact ⟨device.pool, SharePool.remove?_push fresh,
      by rw [DieMap.release_claim? claimedDies unknown]⟩

/-- Whoever came last waits at the end, and has not had a turn yet. -/
theorem SlicedDevice.InTurn.remove?_enqueue {device : SlicedDevice} (inTurn : device.InTurn)
    {workload : GpuAllocation} (fresh : workload.id ∉ device.workloads.map (·.id))
    (fits : device.memoryUsedMib.toNat + workload.memoryMib.toNat < UInt64.size) :
    (device.enqueue workload).remove? workload.id = some (workload, device) := by
  have queue : (device.queue ++ [workload.id]).filter (· ≠ workload.id) = device.queue := by
    have waiting (name : String) (member : name ∈ device.queue) : name ≠ workload.id :=
      fun same => fresh (same ▸ inTurn.everyone.mem_iff.mp (List.mem_append_right _ member))
    simpa using waiting
  have resting : device.active ≠ some workload.id := fun active => fresh (inTurn.active_mem active)
  have memory : monus (device.memoryUsedMib + workload.memoryMib) workload.memoryMib =
      device.memoryUsedMib := by
    rw [← UInt64.toNat_inj, toNat_monus, UInt64.toNat_add, Nat.mod_eq_of_lt fits]
    omega
  simp only [SlicedDevice.remove?, SlicedDevice.enqueue, takeAllocation?_append fresh,
    Option.map_some, queue, resting, memory, ↓reduceIte]

end Devices

section Allocators

theorem FractionalAllocator.release_allocate {allocator : FractionalAllocator}
    (sound : allocator.Sound) {device : String} {request : AllocationRequest} {now : Timestamp}
    {allocation : GpuAllocation}
    (granted : (allocator.allocate device request now).1 = .ok allocation) :
    ((allocator.allocate device request now).2.release allocation.id).2 = allocator := by
  have entered := (allocate_eq_ok (Prod.ext granted rfl)).2
  rcases allocator.allocate_cases device request now with
    ⟨_, refused⟩ | ⟨pool, share, checked, done⟩
  · rw [refused] at granted
    cases granted
  · have known := (check_eq_ok.mp checked).2.2.1
    have fresh := sound.coherent.fresh entered.unused device
    rw [Ledger.liveOn_eq known] at fresh
    rw [done] at granted ⊢
    rw [Except.ok.inj granted]
    simp only [release, Ledger.release_enter known entered.unused (SharePool.remove?_push fresh)]

theorem PartitionAllocator.release_allocate {allocator : PartitionAllocator}
    (sound : allocator.Sound) {device : String} {request : AllocationRequest} {now : Timestamp}
    {allocation : GpuAllocation}
    (granted : (allocator.allocate device request now).1 = .ok allocation) :
    ((allocator.allocate device request now).2.release allocation.id).2 = allocator := by
  have entered := (allocate_eq_ok (Prod.ext granted rfl)).2
  rcases allocator.allocate_cases device request now with
    ⟨_, refused⟩ | ⟨books, share, allocated, claimed, checked, claim, done⟩
  · rw [refused] at granted
    cases granted
  · have known := (check_eq_ok.mp checked).2.2.1
    have fresh := sound.coherent.fresh entered.unused device
    rw [Ledger.liveOn_eq known] at fresh
    rw [done] at granted ⊢
    cases granted
    simp only [release, Ledger.release_enter known entered.unused
      ((sound.accounted device books known).remove?_push claim fresh)]

/-- Only a device that was not known before stays behind. -/
theorem TimeSlicingScheduler.release_allocate {scheduler : TimeSlicingScheduler}
    (sound : scheduler.Sound) {device : String} {request : AllocationRequest} {clock : Clock}
    {workload : GpuAllocation} (registered : scheduler.ledger.containsDevice device)
    (granted : (scheduler.allocate device request clock).1 = .ok workload) :
    ((scheduler.allocate device request clock).2.release workload.id).2 = scheduler := by
  obtain ⟨known, found⟩ := Option.isSome_iff_exists.mp registered
  have same : scheduler.deviceOrNew device clock.monotonic = known := by
    simp only [deviceOrNew, found]
  obtain ⟨answers, entered⟩ := allocate_eq_ok (Prod.ext granted rfl)
  rcases scheduler.allocate_cases device request clock with
    ⟨_, refused⟩ | ⟨share, checked, done⟩
  · rw [refused] at granted
    cases granted
  · have fits := (memory_of_check checked clock.monotonic).1
    have fresh := sound.coherent.fresh entered.unused device
    rw [Ledger.liveOn_eq found] at fresh
    rw [same, ← answers.memory_eq] at fits
    rw [done] at granted ⊢
    rw [Except.ok.inj granted, same]
    simp only [release, Ledger.release_enter found entered.unused
      ((sound.inTurn device known found).remove?_enqueue fresh fits)]

end Allocators

end GpuSharing
