import GpuSharing.Proofs.Pruning

/-!
# Checks and grants

A grant repeats its check and then changes the books in several steps, none of which can fail
any more: the device that was checked is there, and its dies are free. A release takes a name
out of the index before it looks for the allocation, which is always found. So an operation
that fails has changed nothing.
-/

set_option autoImplicit false

namespace GpuSharing

/-- A request is granted if its check lets it through. Otherwise it is turned down for the reason
that the check gives, and nothing is changed. -/
inductive GrantsAsChecked {κ : Type} (before : κ) :
    Outcome Unit → Outcome GpuAllocation × κ → Prop where
  | granted {allocation : GpuAllocation} {after : κ} :
      GrantsAsChecked before (.ok ()) (.ok allocation, after)
  | refused {failure : Failure} : GrantsAsChecked before (.error failure) (.error failure, before)

theorem GrantsAsChecked.isOk_iff {κ : Type} {before : κ} {checked : Outcome Unit}
    {granted : Outcome GpuAllocation × κ} (agrees : GrantsAsChecked before checked granted) :
    (∃ allocation, granted.1 = .ok allocation) ↔ checked = .ok () := by
  cases agrees with
  | granted => exact iff_of_true ⟨_, rfl⟩ rfl
  | refused => exact iff_of_false (fun ⟨_, succeeds⟩ => by cases succeeds) nofun

open LedgerKeeper in
/-- A name that the index knows is found on its device, and a release that fails was asked for a
name that the index does not know. -/
structure ReleasesOrKeeps {κ δ : Type} [Booked δ] [LedgerKeeper κ δ] (keeper : κ) : Prop where
  found : ∀ id device, (ledger keeper).owners.get? id = some device →
    ∃ books taken left, (ledger keeper).devices.get? device = some books ∧
      Booked.remove? books id = some (taken, left)
  kept : ∀ id failure after, release keeper id = (.error failure, after) →
    (ledger keeper).owners.get? id = none ∧ failure = { error := .notFound .allocation id } ∧
      after = keeper

open LedgerKeeper in
theorem Ledger.Coherent.releasesOrKeeps {κ δ : Type} [Booked δ] [LawfulBooked δ]
    [LedgerKeeper κ δ] {keeper : κ} (coherent : (ledger keeper).Coherent) :
    ReleasesOrKeeps keeper := by
  constructor
  · intro id device indexed
    rcases release_cases coherent id with
      ⟨unused, _⟩ | ⟨owner, books, taken, left, found, known, removed, _⟩
    · rw [indexed] at unused
      cases unused
    · rw [indexed, Option.some.injEq] at found
      exact ⟨books, taken, left, found ▸ known, removed⟩
  · intro id failure after failed
    rw [release_eq] at failed
    rcases release_cases coherent id with
      ⟨unused, released⟩ | ⟨_, _, _, _, _, _, _, released⟩
    · rw [released, withLedger_ledger] at failed
      cases failed
      exact ⟨unused, rfl, rfl⟩
    · rw [released] at failed
      cases failed

section Allocators

theorem FractionalAllocator.grantsAsChecked (allocator : FractionalAllocator) (device : String)
    (request : AllocationRequest) (now : Timestamp) :
    GrantsAsChecked allocator (allocator.canAllocate device request)
      (allocator.allocate device request now) := by
  unfold canAllocate allocate
  cases allocator.check device request with
  | error failure => exact .refused
  | ok result => exact .granted

/-- Dies that a check has found free can be claimed. -/
theorem PartitionAllocator.claim?_of_check {allocator : PartitionAllocator} {device : String}
    {request : AllocationRequest} {books : PartitionedDevice} {share : Share}
    (checked : allocator.check device request = .ok (books, share)) (now : Timestamp) :
    ∃ granted claimed,
      books.claim? (.ofRequest device request share .active now) = some (granted, claimed) := by
  obtain ⟨_, _, _, _, fits⟩ := check_eq_ok.mp checked
  exact PartitionedDevice.claim?_of_check fits

theorem PartitionAllocator.grantsAsChecked (allocator : PartitionAllocator) (device : String)
    (request : AllocationRequest) (now : Timestamp) :
    GrantsAsChecked allocator (allocator.canAllocate device request)
      (allocator.allocate device request now) := by
  unfold canAllocate allocate
  cases checked : allocator.check device request with
  | error failure => exact .refused
  | ok result =>
      obtain ⟨books, share⟩ := result
      obtain ⟨granted, claimed, claim⟩ := claim?_of_check checked now
      simp only [claim]
      exact .granted

theorem TimeSlicingScheduler.grantsAsChecked (scheduler : TimeSlicingScheduler) (device : String)
    (request : AllocationRequest) (clock : Clock) :
    GrantsAsChecked scheduler (scheduler.canAllocate device request)
      (scheduler.allocate device request clock) := by
  unfold canAllocate allocate
  cases scheduler.check device request with
  | error failure => exact .refused
  | ok share => exact .granted

end Allocators

/-- In every state that an allocator reaches, what is granted is what would be, no step of a
grant or a release fails half-way, and whatever fails leaves everything as it was. -/
theorem run_grants_as_checked :
    (∀ policy operations,
      let allocator := ({ policy } : FractionalAllocator).run operations
      (∀ device request now, GrantsAsChecked allocator (allocator.canAllocate device request)
        (allocator.allocate device request now)) ∧
      (∀ device request pool share, allocator.check device request = .ok (pool, share) →
        allocator.ledger.devices.get? device = some pool) ∧
      ReleasesOrKeeps allocator) ∧
    (∀ policy operations,
      let allocator := ({ policy } : PartitionAllocator).run operations
      (∀ device request now, GrantsAsChecked allocator (allocator.canAllocate device request)
        (allocator.allocate device request now)) ∧
      (∀ device request books share, allocator.check device request = .ok (books, share) →
        allocator.ledger.devices.get? device = some books ∧
          ∀ now, ∃ granted claimed,
            books.claim? (.ofRequest device request share .active now) = some (granted, claimed)) ∧
      ReleasesOrKeeps allocator) ∧
    ∀ config policy operations,
      let scheduler := ({ config, policy } : TimeSlicingScheduler).run operations
      (∀ device request clock, GrantsAsChecked scheduler (scheduler.canAllocate device request)
        (scheduler.allocate device request clock)) ∧
      ReleasesOrKeeps scheduler := by
  refine ⟨?_, ?_, ?_⟩
  · intro policy operations allocator
    have sound := (FractionalAllocator.sound_new policy).run operations
    refine ⟨allocator.grantsAsChecked, ?_, sound.coherent.releasesOrKeeps⟩
    intro device request pool share checked
    exact (FractionalAllocator.check_eq_ok.mp checked).2.2.1
  · intro policy operations allocator
    have sound := (PartitionAllocator.sound_new policy).run operations
    refine ⟨allocator.grantsAsChecked, ?_, sound.coherent.releasesOrKeeps⟩
    intro device request books share checked
    exact ⟨(PartitionAllocator.check_eq_ok.mp checked).2.2.1,
      PartitionAllocator.claim?_of_check checked⟩
  · intro config policy operations scheduler
    have sound := (TimeSlicingScheduler.sound_new config policy).run operations
    exact ⟨scheduler.grantsAsChecked, sound.coherent.releasesOrKeeps⟩

end GpuSharing
