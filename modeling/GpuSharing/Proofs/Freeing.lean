import GpuSharing.Proofs.Release

/-!
# Freeing capacity

Releases and sweeps take allocations off the books and put none on them. With fewer allocations
a device has at least as much of its share, its memory and its dies left, and no name is in use
that was free. So a request that would be granted stays grantable, however much is freed and
wherever, also on a device that has shrunk below what lives on it.
-/

set_option autoImplicit false

namespace GpuSharing

section Rooms

theorem SharePool.remaining_le_prune (pool : SharePool) (keep : String → Bool) :
    pool.shareUsed.remaining ≤ (pool.prune keep).shareUsed.remaining := by
  have fewer : totalMillis (pool.prune keep).allocations ≤ totalMillis pool.allocations :=
    totalOf_filter_le _ _ _
  rw [Share.le_iff, Share.toNat_remaining, Share.toNat_remaining, toNat_shareUsed, toNat_shareUsed]
  omega

/-- Where the memory in use is counted without overflow, fewer allocations use less of it. -/
theorem SharePool.memoryFree_le_prune {pool : SharePool}
    (exact : totalMemory pool.allocations < UInt64.size) (keep : String → Bool) :
    pool.memoryFreeMib ≤ (pool.prune keep).memoryFreeMib := by
  have fewer : totalMemory (pool.prune keep).allocations ≤ totalMemory pool.allocations :=
    totalOf_filter_le _ _ _
  have used := toNat_memoryUsedMib_eq exact
  have left := toNat_memoryUsedMib_eq (Nat.lt_of_le_of_lt fewer exact)
  rw [UInt64.le_iff_toNat_le, memoryFreeMib, memoryFreeMib, toNat_monus, toNat_monus, used, left]
  exact Nat.sub_le_sub_left fewer _

theorem DieMap.freeCount_le_prune (map : DieMap) (keep : String → Bool) :
    map.freeCount ≤ (map.prune keep).freeCount := by
  unfold freeCount freeDies diesWhere
  refine (List.monotone_filter_right _ fun die free => ?_).length_le
  have unheld : map.ownerOf die = none := of_decide_eq_true free
  rw [ownerOf_prune, unheld]
  rfl

namespace PartitionedDevice

variable {device : PartitionedDevice} {share : Share}

/-- What a share needs besides memory. -/
def HasRoom (device : PartitionedDevice) (share : Share) : Prop :=
  match device.config.computeMode with
  | .spx => device.pool.allocations = []
  | .cpx => share.dies.toNat ≤ device.dies.freeCount
  | .tpx => share ≤ device.pool.shareUsed.remaining

theorem check_eq_ok {id : String} {memoryMib : UInt64} :
    device.check id share memoryMib = .ok () ↔
      device.HasRoom share ∧ memoryMib ≤ device.pool.memoryFreeMib := by
  constructor
  · intro checked
    exact ⟨room_of_check checked, PartitionAllocator.memory_of_check checked⟩
  · rintro ⟨room, memory⟩
    have fits : device.pool.checkMemory id memoryMib = .ok () := require_eq_ok.mpr memory
    unfold HasRoom at room
    unfold check
    cases mode : device.config.computeMode with
    | spx =>
        rw [mode] at room
        simp only [room, fits]
    | cpx =>
        rw [mode] at room
        exact Outcome.bind_eq_ok.mpr ⟨(), require_eq_ok.mpr room, fits⟩
    | tpx =>
        rw [mode] at room
        exact SharePool.check_eq_ok.mpr ⟨room, memory⟩

theorem HasRoom.prune (room : device.HasRoom share) (keep : String → Bool) :
    (device.prune keep).HasRoom share := by
  have sameMode : (device.prune keep).config.computeMode = device.config.computeMode := rfl
  unfold HasRoom at room ⊢
  rw [sameMode]
  cases mode : device.config.computeMode with
  | spx =>
      rw [mode] at room
      simp only [PartitionedDevice.prune, SharePool.prune, room, List.filter_nil]
  | cpx =>
      rw [mode] at room
      exact Nat.le_trans room (device.dies.freeCount_le_prune keep)
  | tpx =>
      rw [mode] at room
      exact Nat.le_trans room (device.pool.remaining_le_prune keep)

end PartitionedDevice

theorem SlicedDevice.InTurn.memoryUsed_prune_le {device : SlicedDevice} (inTurn : device.InTurn)
    (keep : String → Bool) : (device.prune keep).memoryUsedMib ≤ device.memoryUsedMib := by
  rw [UInt64.le_iff_toNat_le, (inTurn.prune keep).memory_exact, inTurn.memory_exact]
  exact totalOf_filter_le _ _ _

end Rooms

/-- The ways in which capacity is freed. -/
inductive Freeing where
  | release (id : String)
  | expire (now : Timestamp)

section Keepers

open LedgerKeeper

variable {κ δ : Type} [Booked δ] [Prunable δ] [LedgerKeeper κ δ]

/-- Of what was there before, the books of some names are left. -/
def Freed (before after : κ) : Prop :=
  ∃ keep, after = withLedger before ((ledger before).prune keep)

def LedgerKeeper.free (keeper : κ) : Freeing → κ
  | .release id => (release keeper id).2
  | .expire now => (expire keeper now).2

/-- Names that are free stay free. -/
theorem Ledger.unused_prune {ledger : Ledger δ} {id : String}
    (unused : ledger.owners.get? id = none) (keep : String → Bool) :
    (ledger.prune keep).owners.get? id = none := by
  rw [owners_prune, unused, ite_self]

/-- A device stays known, with its books. -/
theorem Ledger.known_prune {ledger : Ledger δ} {device : String} {books : δ}
    (known : ledger.devices.get? device = some books) (keep : String → Bool) :
    (ledger.prune keep).devices.get? device = some (Prunable.prune keep books) := by
  rw [get?_prune, known, Option.map_some]

theorem Ledger.liveOn_prune (ledger : Ledger δ) (keep : String → Bool) (device : String) :
    (ledger.prune keep).liveOn device = (ledger.liveOn device).filter (keep ·.id) := by
  unfold liveOn
  rw [get?_prune]
  cases ledger.devices.get? device with
  | none => rfl
  | some books => exact Prunable.allocations_prune keep books

variable {keeper : κ}

/-- Nothing comes to life. -/
theorem Freed.sublist_liveOn {before after : κ} (freed : Freed before after) (device : String) :
    ((ledger after).liveOn device).Sublist ((ledger before).liveOn device) := by
  obtain ⟨keep, rfl⟩ := freed
  rw [ledger_withLedger, Ledger.liveOn_prune]
  exact List.filter_sublist

theorem Ledger.Settled.freed_refl (settled : (ledger keeper).Settled) : Freed keeper keeper := by
  refine ⟨fun _ => true, ?_⟩
  rw [settled.prune_all, withLedger_ledger]

theorem Freed.trans {first second third : κ} (freed : Freed first second)
    (further : Freed second third) : Freed first third := by
  obtain ⟨keep, rfl⟩ := freed
  obtain ⟨among, rfl⟩ := further
  refine ⟨fun id => keep id && among id, ?_⟩
  rw [ledger_withLedger, withLedger_withLedger, Ledger.prune_prune]

variable [LawfulBooked δ]

theorem Ledger.Settled.freed (settled : (ledger keeper).Settled) (step : Freeing) :
    Freed keeper (free keeper step) := by
  cases step with
  | release id =>
      refine ⟨(· ≠ id), ?_⟩
      rw [free, release_eq, settled.release_eq_prune]
  | expire now =>
      refine ⟨(· ∉ ((ledger keeper).expire now).1.map (·.id)), ?_⟩
      rw [free, expire_eq]
      exact congrArg (withLedger keeper) (settled.expire_eq_prune now)

theorem Ledger.Settled.free (settled : (ledger keeper).Settled) (step : Freeing) :
    (ledger (LedgerKeeper.free keeper step)).Settled := by
  cases step with
  | release id =>
      rw [LedgerKeeper.free, release_eq, ledger_withLedger]
      exact settled.release id
  | expire now =>
      rw [LedgerKeeper.free, expire_eq, ledger_withLedger]
      exact settled.expire now

/-- Whatever is freed, in whichever order, amounts to a choice of the names that stay. -/
theorem Ledger.Settled.foldl_freed (settled : (ledger keeper).Settled) (steps : List Freeing) :
    Freed keeper (steps.foldl LedgerKeeper.free keeper) := by
  induction steps generalizing keeper with
  | nil => exact settled.freed_refl
  | cons step rest ih => exact (settled.freed step).trans (ih (settled.free step))

end Keepers

section Allocators

variable {device : String} {request : AllocationRequest}

theorem FractionalAllocator.canAllocate_eq_ok {allocator : FractionalAllocator} :
    allocator.canAllocate device request = .ok () ↔ ∃ pool share,
      allocator.check device request = .ok (pool, share) := by
  unfold canAllocate
  rw [Outcome.bind_eq_ok]
  constructor
  · rintro ⟨⟨pool, share⟩, checked, _⟩
    exact ⟨pool, share, checked⟩
  · rintro ⟨pool, share, checked⟩
    exact ⟨(pool, share), checked, rfl⟩

theorem PartitionAllocator.canAllocate_eq_ok {allocator : PartitionAllocator} :
    allocator.canAllocate device request = .ok () ↔ ∃ books share,
      allocator.check device request = .ok (books, share) := by
  unfold canAllocate
  rw [Outcome.bind_eq_ok]
  constructor
  · rintro ⟨⟨books, share⟩, checked, _⟩
    exact ⟨books, share, checked⟩
  · rintro ⟨books, share, checked⟩
    exact ⟨(books, share), checked, rfl⟩

theorem TimeSlicingScheduler.canAllocate_eq_ok {scheduler : TimeSlicingScheduler} :
    scheduler.canAllocate device request = .ok () ↔ ∃ share,
      scheduler.check device request = .ok share := by
  unfold canAllocate
  rw [Outcome.bind_eq_ok]
  exact exists_congr fun share => and_iff_left rfl

theorem FractionalAllocator.Sound.canAllocate_freed {allocator after : FractionalAllocator}
    (sound : allocator.Sound) (freed : Freed allocator after)
    (passes : allocator.canAllocate device request = .ok ()) :
    after.canAllocate device request = .ok () := by
  obtain ⟨keep, rfl⟩ := freed
  obtain ⟨pool, share, checked⟩ := canAllocate_eq_ok.mp passes
  obtain ⟨vetted, unused, known, fits⟩ := check_eq_ok.mp checked
  obtain ⟨shares, memory⟩ := SharePool.check_eq_ok.mp fits
  have within := sound.within device pool known
  refine canAllocate_eq_ok.mpr ⟨pool.prune keep, share, check_eq_ok.mpr ⟨vetted, ?_, ?_, ?_⟩⟩
  · exact Ledger.unused_prune unused keep
  · exact Ledger.known_prune known keep
  · exact SharePool.check_eq_ok.mpr ⟨Nat.le_trans shares (pool.remaining_le_prune keep),
      UInt64.le_trans memory (SharePool.memoryFree_le_prune within.memory_fits keep)⟩

theorem PartitionAllocator.MemoryCounted.canAllocate_freed {allocator after : PartitionAllocator}
    (counted : allocator.MemoryCounted) (freed : Freed allocator after)
    (passes : allocator.canAllocate device request = .ok ()) :
    after.canAllocate device request = .ok () := by
  obtain ⟨keep, rfl⟩ := freed
  obtain ⟨books, share, checked⟩ := canAllocate_eq_ok.mp passes
  obtain ⟨vetted, unused, known, valid, fits⟩ := check_eq_ok.mp checked
  obtain ⟨room, memory⟩ := PartitionedDevice.check_eq_ok.mp fits
  have exact := counted device
  rw [Ledger.liveOn_eq known] at exact
  refine canAllocate_eq_ok.mpr
    ⟨books.prune keep, share, check_eq_ok.mpr ⟨vetted, ?_, ?_, valid, ?_⟩⟩
  · exact Ledger.unused_prune unused keep
  · exact Ledger.known_prune known keep
  · exact PartitionedDevice.check_eq_ok.mpr ⟨room.prune keep,
      UInt64.le_trans memory (SharePool.memoryFree_le_prune exact keep)⟩

/-- A device that is not known stays unknown, and has the default memory to give. -/
theorem TimeSlicingScheduler.Sound.memoryFree_le_prune {scheduler : TimeSlicingScheduler}
    (sound : scheduler.Sound) (keep : String → Bool) (device : String) (now : Instant) :
    let before := scheduler.deviceOrNew device now
    let after :=
      { scheduler with ledger := scheduler.ledger.prune keep }.deviceOrNew device now
    monus before.memoryTotalMib before.memoryUsedMib ≤
      monus after.memoryTotalMib after.memoryUsedMib := by
  simp only [TimeSlicingScheduler.deviceOrNew, Ledger.get?_prune]
  cases known : scheduler.ledger.devices.get? device with
  | none => exact UInt64.le_refl _
  | some sliced =>
      have used := (sound.inTurn device sliced known).memoryUsed_prune_le keep
      rw [UInt64.le_iff_toNat_le] at used
      rw [UInt64.le_iff_toNat_le, toNat_monus, toNat_monus]
      exact Nat.sub_le_sub_left used _

theorem TimeSlicingScheduler.Sound.canAllocate_freed {scheduler after : TimeSlicingScheduler}
    (sound : scheduler.Sound) (freed : Freed scheduler after)
    (passes : scheduler.canAllocate device request = .ok ()) :
    after.canAllocate device request = .ok () := by
  obtain ⟨keep, rfl⟩ := freed
  obtain ⟨share, checked⟩ := canAllocate_eq_ok.mp passes
  obtain ⟨vetted, unused, memory⟩ := (check_eq_ok ⟨0⟩).mp checked
  refine canAllocate_eq_ok.mpr ⟨share, (check_eq_ok ⟨0⟩).mpr ⟨vetted, ?_, ?_⟩⟩
  · exact Ledger.unused_prune unused keep
  · exact UInt64.le_trans memory (sound.memoryFree_le_prune keep device ⟨0⟩)

end Allocators

end GpuSharing
