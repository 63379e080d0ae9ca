import GpuSharing.Proofs.Pruning
import GpuSharing.Proofs.Withdrawal

/-!
# What a release gives back

A release takes one allocation off its device: the share, the memory and the dies that it had,
its place in the queue and its turn, and nothing that belongs to any other. All sums are exact
on the way back because they were exact on the way there.
-/

set_option autoImplicit false

namespace GpuSharing

/-- An allocation is gone from its device and from the index; the others on the device keep
their order, and all other devices are as they were. -/
structure Ledger.Releases {δ : Type} [Booked δ] (before after : Ledger δ) (device : String)
    (live : GpuAllocation) (books left : δ) : Prop where
  held : before.devices.get? device = some books
  remains : after.devices.get? device = some left
  in_order : ∃ earlier later, Booked.allocations books = earlier ++ live :: later ∧
    Booked.allocations left = earlier ++ later
  elsewhere : ∀ other, other ≠ device → after.devices.get? other = before.devices.get? other
  unindexed : ∀ id, after.owners.get? id =
    if id = live.id then none else before.owners.get? id

theorem Ledger.Coherent.releases {δ : Type} [Booked δ] [LawfulBooked δ] {ledger : Ledger δ}
    (coherent : ledger.Coherent) {device : String} {live : GpuAllocation}
    (member : live ∈ ledger.liveOn device) :
    ∃ books left, Booked.remove? books live.id = some (live, left) ∧
      ledger.Releases (ledger.release live.id).2 device live books left := by
  have indexed := (coherent.indexed live.id device).mpr (List.mem_map_of_mem member)
  rcases release_cases coherent live.id with
    ⟨unused, _⟩ | ⟨owner, books, taken, left, found, known, removed, released⟩
  · rw [indexed] at unused
    cases unused
  · rw [indexed, Option.some.injEq] at found
    subst found
    have takes := LawfulBooked.takes removed
    obtain ⟨named, earlier, later, whole, rest, _⟩ := takeAllocation?_eq_some takes
    rw [← liveOn_eq known] at takes
    have same : taken = live :=
      eq_of_id_eq (coherent.distinct device) (mem_of_takeAllocation? takes) member named
    rw [same] at whole removed
    refine ⟨books, left, removed, known, ?_, ⟨earlier, later, whole, rest⟩, ?_,
      owners_release coherent live.id⟩
    · rw [released]
      exact Keyed.get?_insert_self ..
    · intro other differs
      rw [released, Keyed.get?_insert, if_neg differs]

section Devices

/-- The share and the memory of an allocation are free again. -/
structure SharePool.GivesBack (live : GpuAllocation) (before after : SharePool) : Prop where
  total_eq : after.memoryTotalMib = before.memoryTotalMib
  share_eq : after.shareUsed.millis.toNat + live.share.millis.toNat =
    before.shareUsed.millis.toNat
  memory_eq : after.memoryUsedMib.toNat + live.memoryMib.toNat = before.memoryUsedMib.toNat

theorem SharePool.WithinCapacity.givesBack {pool left : SharePool} {id : String}
    {live : GpuAllocation} (within : pool.WithinCapacity)
    (removed : pool.remove? id = some (live, left)) : GivesBack live pool left := by
  have rest := within.remove removed
  obtain ⟨⟨_, _⟩, found, same⟩ := Option.map_eq_some_iff.mp removed
  obtain ⟨rfl, rfl⟩ := Prod.mk.inj same
  have shares := totalOf_takeAllocation? (·.share.millis.toNat) found
  have memory := totalOf_takeAllocation? (·.memoryMib.toNat) found
  refine ⟨rfl, ?_, ?_⟩
  · rw [rest.shares_exact, within.shares_exact, Nat.add_comm]
    exact shares.symm
  · rw [rest.memory_exact, within.memory_exact, Nat.add_comm]
    exact memory.symm

/-- The dies of an allocation are free again as well, and no others. -/
structure PartitionedDevice.GivesBack (live : GpuAllocation) (before after : PartitionedDevice) :
    Prop where
  config_eq : after.config = before.config
  pool : before.pool.GivesBack live after.pool
  own_dies : ∀ die : Die, die.index ∈ live.dies ↔ before.dies.ownerOf die = some live.id
  dies_eq : ∀ die, after.dies.ownerOf die =
    if die.index ∈ live.dies then none else before.dies.ownerOf die

theorem PartitionedDevice.Accounted.givesBack {device left : PartitionedDevice}
    {live : GpuAllocation} (accounted : device.Accounted) (within : device.pool.WithinCapacity)
    (removed : device.remove? live.id = some (live, left)) : GivesBack live device left := by
  have held := mem_of_takeAllocation? (LawfulBooked.takes
    (show Booked.remove? device live.id = some (live, left) from removed))
  have own (die : Die) : die.index ∈ live.dies ↔ device.dies.ownerOf die = some live.id := by
    rw [accounted.mem_dies held]
    constructor
    · rintro ⟨other, owns, same⟩
      exact Die.index_inj.mp same ▸ owns
    · intro owns
      exact ⟨die, owns, rfl⟩
  obtain ⟨pool, fromPool, rfl⟩ := remove?_eq_some.mp removed
  refine ⟨rfl, within.givesBack fromPool, own, fun die => ?_⟩
  simp only [DieMap.ownerOf_release, own]

/-- The memory of a workload is free again, and its turn and its place in the queue are up. -/
structure SlicedDevice.GivesBack (live : GpuAllocation) (before after : SlicedDevice) : Prop where
  total_eq : after.memoryTotalMib = before.memoryTotalMib
  lastSwitch_eq : after.lastSwitch = before.lastSwitch
  memory_eq : after.memoryUsedMib.toNat + live.memoryMib.toNat = before.memoryUsedMib.toNat
  active_eq : after.active = if before.active = some live.id then none else before.active
  queue_eq : after.queue = before.queue.filter (· ≠ live.id)

theorem SlicedDevice.InTurn.givesBack {device left : SlicedDevice} {live : GpuAllocation}
    (inTurn : device.InTurn) (removed : device.remove? live.id = some (live, left)) :
    GivesBack live device left := by
  have rest := inTurn.remove removed
  have memory := totalOf_takeAllocation? (·.memoryMib.toNat) (remove?_eq_some removed).1
  have pruned := inTurn.remove?_eq_prune removed
  refine ⟨?_, ?_, ?_, ?_, ?_⟩
  · rw [pruned]
    rfl
  · rw [pruned]
    rfl
  · rw [rest.memory_exact, inTurn.memory_exact, Nat.add_comm]
    exact memory.symm
  · exact (remove?_eq_some removed).2.2.1
  · exact (remove?_eq_some removed).2.1

end Devices

namespace PartitionAllocator

/-- The memory given away on a device is counted without overflow. -/
def MemoryCounted (allocator : PartitionAllocator) : Prop :=
  ∀ device, totalMemory (allocator.ledger.liveOn device) < UInt64.size

variable {allocator : PartitionAllocator}

theorem memory_of_check {books : PartitionedDevice} {device : String} {share : Share}
    {memoryMib : UInt64} {result : Unit}
    (checked : books.check device share memoryMib = .ok result) :
    memoryMib ≤ books.pool.memoryFreeMib := by
  unfold PartitionedDevice.check at checked
  cases mode : books.config.computeMode with
  | spx =>
      rw [mode] at checked
      cases held : books.pool.allocations with
      | nil =>
          rw [held] at checked
          exact require_eq_ok.mp checked
      | cons holder rest =>
          rw [held] at checked
          cases checked
  | cpx =>
      simp only [mode, Outcome.bind_eq_ok] at checked
      obtain ⟨_, _, fits⟩ := checked
      exact require_eq_ok.mp fits
  | tpx =>
      rw [mode] at checked
      exact (SharePool.check_eq_ok.mp checked).2

theorem MemoryCounted.allocate (counted : allocator.MemoryCounted) (device : String)
    (request : AllocationRequest) (now : Timestamp) :
    (allocator.allocate device request now).2.MemoryCounted := by
  intro other
  rcases allocator.allocate_cases device request now with
    ⟨_, refused⟩ | ⟨books, share, granted, claimed, checked, _, done⟩
  · rw [refused]
    exact counted other
  · obtain ⟨answers, entered⟩ := allocate_eq_ok done
    obtain ⟨_, _, known, _, fits⟩ := check_eq_ok.mp checked
    have before := counted other
    rw [done, entered.liveOn_eq]
    split
    · rename_i here
      rw [here, answers.device_eq, Ledger.liveOn_eq known] at before ⊢
      change totalMemory books.pool.allocations < UInt64.size at before
      have room := fits_of_le_monus (memory_of_check fits)
      rw [SharePool.toNat_memoryUsedMib_eq before] at room
      have grown : totalMemory (books.pool.allocations ++ [granted]) =
          totalMemory books.pool.allocations + request.memoryMib.toNat := by
        simp [totalMemory, answers.memory_eq]
      change totalMemory (books.pool.allocations ++ [granted]) < UInt64.size
      rw [grown]
      rcases room with enough | none
      · exact Nat.lt_of_le_of_lt enough books.pool.memoryTotalMib.toNat_lt
      · rw [none]
        exact before
    · exact before

theorem MemoryCounted.of_filter {after : PartitionAllocator} (counted : allocator.MemoryCounted)
    (keep : GpuAllocation → Bool)
    (left : ∀ device, after.ledger.liveOn device = (allocator.ledger.liveOn device).filter keep) :
    after.MemoryCounted := by
  intro device
  rw [left]
  exact Nat.lt_of_le_of_lt (totalOf_filter_le _ keep _) (counted device)

theorem MemoryCounted.perform (sound : allocator.Sound) (counted : allocator.MemoryCounted)
    (operation : Operation) : (allocator.perform operation).MemoryCounted := by
  cases operation with
  | register device memoryTotalMib config =>
      intro other
      rw [PartitionAllocator.perform, liveOn_register]
      exact counted other
  | allocate device request now => exact counted.allocate device request now
  | release id => exact counted.of_filter _ (Ledger.liveOn_release sound.coherent id)
  | expire now => exact counted.of_filter _ (Ledger.liveOn_expire sound.coherent now)
  | select strategy request => exact counted

theorem MemoryCounted.run (sound : allocator.Sound) (counted : allocator.MemoryCounted)
    (operations : List Operation) : (allocator.run operations).MemoryCounted := by
  induction operations generalizing allocator with
  | nil => exact counted
  | cons operation rest ih => exact ih (sound.perform operation) (counted.perform sound operation)

end PartitionAllocator

open LedgerKeeper in
/-- Every release of something that lives succeeds, gives back what it had, and touches nothing
but the ledger. -/
def ReleasesExactly {κ δ : Type} [Booked δ] [LedgerKeeper κ δ]
    (gives : GpuAllocation → δ → δ → Prop) (keeper : κ) : Prop :=
  ∀ device, ∀ live ∈ (ledger keeper).liveOn device, ∃ books left after,
    release keeper live.id = (.ok { live with status := .completed }, withLedger keeper after) ∧
      (ledger keeper).Releases after device live books left ∧ gives live books left

open LedgerKeeper in
theorem Ledger.Coherent.releasesExactly {κ δ : Type} [Booked δ] [LawfulBooked δ]
    [LedgerKeeper κ δ] {keeper : κ} (coherent : (ledger keeper).Coherent)
    {gives : GpuAllocation → δ → δ → Prop}
    (each : ∀ device books live left, (ledger keeper).devices.get? device = some books →
      Booked.remove? books live.id = some (live, left) → gives live books left) :
    ReleasesExactly gives keeper := by
  intro device live held
  obtain ⟨books, left, removed, releases⟩ := coherent.releases held
  refine ⟨books, left, _, ?_, releases, each device books live left releases.held removed⟩
  rw [release_eq, release_eq_ok coherent held]

/-- In every state that an allocator reaches, a release gives back exactly what was granted, and
released at once a grant on a known device has never been. -/
theorem run_releases_exactly :
    (∀ policy operations,
      let allocator := ({ policy } : FractionalAllocator).run operations
      ReleasesExactly SharePool.GivesBack allocator ∧
      ∀ device request now allocation,
        (allocator.allocate device request now).1 = .ok allocation →
        ((allocator.allocate device request now).2.release allocation.id).2 = allocator) ∧
    (∀ policy operations,
      let allocator := ({ policy } : PartitionAllocator).run operations
      ReleasesExactly PartitionedDevice.GivesBack allocator ∧
      ∀ device request now allocation,
        (allocator.allocate device request now).1 = .ok allocation →
        ((allocator.allocate device request now).2.release allocation.id).2 = allocator) ∧
    ∀ config policy operations,
      let scheduler := ({ config, policy } : TimeSlicingScheduler).run operations
      ReleasesExactly SlicedDevice.GivesBack scheduler ∧
      ∀ device request clock workload, scheduler.ledger.containsDevice device →
        (scheduler.allocate device request clock).1 = .ok workload →
        ((scheduler.allocate device request clock).2.release workload.id).2 = scheduler := by
  refine ⟨?_, ?_, ?_⟩
  · intro policy operations allocator
    have sound := (FractionalAllocator.sound_new policy).run operations
    refine ⟨sound.coherent.releasesExactly ?_, fun _ _ _ _ granted =>
      FractionalAllocator.release_allocate sound granted⟩
    intro device pool live left known removed
    exact (sound.within device pool known).givesBack removed
  · intro policy operations allocator
    have sound := (PartitionAllocator.sound_new policy).run operations
    have counted : allocator.MemoryCounted :=
      .run (PartitionAllocator.sound_new policy) (fun _ => Nat.zero_lt_succ _) operations
    refine ⟨sound.coherent.releasesExactly ?_, fun _ _ _ _ granted =>
      PartitionAllocator.release_allocate sound granted⟩
    intro device books live left known removed
    have accounted := sound.accounted device books known
    have memory := counted device
    rw [Ledger.liveOn, show allocator.ledger.devices.get? device = some books from known] at memory
    exact accounted.givesBack (.of_fits accounted.totalMillis_le memory) removed
  · intro config policy operations scheduler
    have sound := (TimeSlicingScheduler.sound_new config policy).run operations
    refine ⟨sound.coherent.releasesExactly ?_, fun _ _ _ _ known granted =>
      TimeSlicingScheduler.release_allocate sound known granted⟩
    intro device books live left known removed
    exact (sound.inTurn device books known).givesBack removed

end GpuSharing
