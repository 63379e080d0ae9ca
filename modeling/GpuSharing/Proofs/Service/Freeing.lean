import GpuSharing.Proofs.Availability
import GpuSharing.Proofs.Freeing
import GpuSharing.Proofs.Service.Agreement
import GpuSharing.Proofs.Service.Ceiling
import GpuSharing.Proofs.Service.DoubleBooking

/-!
# Freeing capacity on a node

The service asks more of a request than the allocators do: the device has to be available, by
the number that the registry keeps of it, and must not be booked by the rival allocator. A
release and a sweep leave the division of every device, and what each allocator holds becomes
less. The registry is told a new number only of devices that have lost an allocation, and these
are below the ceiling. So what the node would grant, it would still grant.
-/

set_option autoImplicit false

namespace GpuSharing

namespace DeviceRegistry

variable {registry : DeviceRegistry}

theorem isAvailable_iff {id : String} : registry.isAvailable id = true ↔
    ∃ known, registry.devices.get? id = some known ∧ known.isAvailable = true := by
  rw [isAvailable, Option.any_eq_true]

/-- An available device stays available under a number that is below the ceiling. -/
theorem Assessed.isAvailable_setActive (assessed : registry.Assessed) {device id : String}
    {count : Nat} (available : registry.isAvailable device = true)
    (room : device = id → count < registry.config.maxAllocations) :
    (registry.setActive id count).2.isAvailable device = true := by
  obtain ⟨known, stored, free⟩ := isAvailable_iff.mp available
  apply isAvailable_iff.mpr
  rw [get?_setActive]
  by_cases here : device = id
  · subst here
    rw [(assessed device known stored).2, Device.canServe_iff] at free
    obtain ⟨present, cool, _⟩ := free
    rw [if_pos rfl, stored]
    exact ⟨_, rfl, Device.canServe_iff.mpr ⟨present, cool, room rfl⟩⟩
  · rw [if_neg here]
    exact ⟨known, stored, free⟩

end DeviceRegistry

namespace AllocationService

variable {service : AllocationService} {device : String} {request : AllocationRequest}

theorem requireAvailable_iff : service.requireAvailable device = .ok () ↔
    service.registry.isAvailable device = true :=
  requireAvailable_eq_ok.trans DeviceRegistry.isAvailable_iff.symm

/-- A request is routed by the mode of the node and the division of the device. -/
theorem route_congr {before after : AllocationService} (mode : after.mode = before.mode)
    (described : after.registry.described? = before.registry.described?) (device : String)
    (request : AllocationRequest) : after.route device request = before.route device request := by
  have same := congrFun described device
  unfold DeviceRegistry.described? at same
  unfold route DeviceRegistry.get
  cases known : before.registry.devices.get? device with
  | none =>
      rw [known, Option.map_none, Option.map_eq_none_iff] at same
      rw [same]
      rfl
  | some found =>
      rw [known, Option.map_some, Option.map_eq_some_iff] at same
      obtain ⟨other, stored, descriptor⟩ := same
      rw [stored]
      change (if other.descriptor.partition.isSome then _ else _) =
        if found.descriptor.partition.isSome then _ else _
      rw [descriptor, mode]

section Lightened

/-- Every allocator has lost some allocations or none. -/
structure Sheds (before after : AllocationService) : Prop where
  fractional : Freed before.fractional after.fractional
  partitioned : Freed before.partitioned after.partitioned
  scheduler : Freed before.scheduler after.scheduler

/-- Devices are divided as they were as well, and those that were available still are. -/
structure Lightened (before after : AllocationService) : Prop extends before.Sheds after where
  mode_eq : after.mode = before.mode
  described_eq : after.registry.described? = before.registry.described?
  available : ∀ device, before.registry.isAvailable device = true →
    after.registry.isAvailable device = true

variable {after : AllocationService}

theorem Lightened.sublist_liveIn (lightened : service.Lightened after) (kind : AllocatorKind)
    (device : String) : (after.liveIn kind device).Sublist (service.liveIn kind device) := by
  cases kind with
  | fractional => exact lightened.fractional.sublist_liveOn device
  | partitionAware => exact lightened.partitioned.sublist_liveOn device
  | timeSlicing => exact lightened.scheduler.sublist_liveOn device

theorem Lightened.requireSingleBooking (lightened : service.Lightened after) {kind : AllocatorKind}
    (single : service.requireSingleBooking device kind = .ok ()) :
    after.requireSingleBooking device kind = .ok () := by
  apply requireSingleBooking_eq_ok.mpr
  intro rival rivals
  have less := lightened.sublist_liveIn rival device
  rw [requireSingleBooking_eq_ok.mp single rival rivals] at less
  exact List.sublist_nil.mp less

theorem Lightened.checkIn (sound : service.Sound) (counted : service.partitioned.MemoryCounted)
    (lightened : service.Lightened after) {kind : AllocatorKind}
    (passes : service.checkIn kind device request = .ok ()) :
    after.checkIn kind device request = .ok () := by
  cases kind with
  | fractional => exact sound.fractional.canAllocate_freed lightened.fractional passes
  | partitionAware => exact counted.canAllocate_freed lightened.partitioned passes
  | timeSlicing => exact sound.scheduler.canAllocate_freed lightened.scheduler passes

theorem Lightened.canAllocate (sound : service.Sound)
    (counted : service.partitioned.MemoryCounted) (lightened : service.Lightened after)
    (passes : service.canAllocate device request = .ok ()) :
    after.canAllocate device request = .ok () := by
  obtain ⟨available, kind, routed, single, checked⟩ := canAllocate_eq_ok.mp passes
  refine canAllocate_eq_ok.mpr ⟨?_, kind, ?_, ?_, ?_⟩
  · exact requireAvailable_iff.mpr (lightened.available device (requireAvailable_iff.mp available))
  · exact (route_congr lightened.mode_eq lightened.described_eq device request).trans routed
  · exact lightened.requireSingleBooking single
  · exact lightened.checkIn sound counted checked

end Lightened

section Counts

/-- The devices that are counted anew are available if they were, provided they are below the
ceiling. -/
theorem isAvailable_syncCounts (assessed : service.registry.Assessed)
    (available : service.registry.isAvailable device = true) {allocations : List GpuAllocation}
    (room : ∀ live ∈ allocations, live.device = device →
      service.count device < service.registry.config.maxAllocations) :
    (allocations.foldl (fun service live => service.syncCount live.device)
      service).registry.isAvailable device = true := by
  induction allocations generalizing service with
  | nil => exact available
  | cons live rest ih =>
      have limit : (service.syncCount live.device).registry.config = service.registry.config :=
        service.registry.config_setActive live.device _
      refine ih (assessed.setActive live.device _) ?_ ?_
      · refine assessed.isAvailable_setActive available fun here => ?_
        rw [← here]
        exact room live List.mem_cons_self here.symm
      · intro other member here
        rw [limit]
        exact room other (List.mem_cons_of_mem live member) here

/-- A device that loses one of its allocations is below the ceiling. -/
theorem Within.count_lt {ceiling : Nat} (within : service.Within ceiling)
    {after : AllocationService} (keep : GpuAllocation → Bool)
    (left : after.list device = (service.list device).filter keep)
    (lost : ∃ live ∈ service.list device, keep live = false) :
    after.count device < service.registry.config.maxAllocations := by
  obtain ⟨live, member, gone⟩ := lost
  rw [within.limit, count_eq_length, left]
  refine Nat.lt_of_lt_of_le ?_ (within.fits device)
  exact List.length_filter_lt_length_iff_exists.mpr ⟨live, member, by simp [gone]⟩

end Counts

/-- What holds of a node in every state that it reaches. -/
structure InOrder (service : AllocationService) (ceiling : Nat) : Prop where
  owned : service.Owned
  assessed : service.registry.Assessed
  within : service.Within ceiling
  partitioned : service.partitioned.Sound ∧ service.partitioned.MemoryCounted

theorem inOrder_new (setup : ServiceSetup) :
    setup.service.InOrder setup.registry.maxAllocations :=
  ⟨owned_new setup, DeviceRegistry.assessed_new setup.registry, within_new setup,
    PartitionAllocator.sound_new setup.policy, fun _ => Nat.zero_lt_succ _⟩

theorem InOrder.perform {ceiling : Nat} (inOrder : service.InOrder ceiling)
    (operation : Operation) : (service.perform operation).InOrder ceiling := by
  have sound := inOrder.owned.sound
  have stable := @stable_of_partitioned
    (fun allocator => allocator.Sound ∧ allocator.MemoryCounted)
    fun allocator operation held => ⟨held.1.perform operation, held.2.perform held.1 operation⟩
  exact ⟨inOrder.owned.perform operation, assessed_perform inOrder.assessed operation,
    inOrder.within.perform sound operation,
    stable.perform_of_unread (fun _ _ held => held) inOrder.partitioned operation⟩

theorem InOrder.run {ceiling : Nat} (inOrder : service.InOrder ceiling)
    (operations : List Operation) : (service.run operations).InOrder ceiling :=
  run_keeps (·.InOrder ceiling) (fun _ operation inOrder => inOrder.perform operation) inOrder
    operations

section Steps

/-- What frees capacity of an allocator, done on the node. -/
def free (service : AllocationService) : Freeing → AllocationService
  | .release id => (service.release id).2
  | .expire now => (service.cleanup now).2

theorem Sheds.congr {before after other : AllocationService} (sheds : before.Sheds after)
    (same : other.allocators = after.allocators) : before.Sheds other := by
  obtain ⟨fractional, rest⟩ := Prod.mk.inj same
  obtain ⟨partitioned, scheduler⟩ := Prod.mk.inj rest
  exact ⟨fractional ▸ sheds.fractional, partitioned ▸ sheds.partitioned,
    scheduler ▸ sheds.scheduler⟩

theorem sheds_refl (sound : service.Sound) : service.Sheds service :=
  ⟨sound.fractional.settled.freed_refl, sound.partitioned.settled.freed_refl,
    sound.scheduler.settled.freed_refl⟩

theorem sheds_releaseFrom (sound : service.Sound) (kind : AllocatorKind) (id : String) :
    service.Sheds (service.releaseFrom kind id).2 := by
  obtain ⟨fractional, partitioned, scheduler⟩ := sheds_refl sound
  cases kind with
  | fractional => exact ⟨sound.fractional.settled.freed (.release id), partitioned, scheduler⟩
  | partitionAware => exact ⟨fractional, sound.partitioned.settled.freed (.release id), scheduler⟩
  | timeSlicing => exact ⟨fractional, partitioned, sound.scheduler.settled.freed (.release id)⟩

theorem sheds_expireAll (sound : service.Sound) (now : Timestamp) :
    service.Sheds (service.expireAll now).2 :=
  ⟨sound.fractional.settled.freed (.expire now), sound.partitioned.settled.freed (.expire now),
    sound.scheduler.settled.freed (.expire now)⟩

theorem sheds_free (sound : service.Sound) (step : Freeing) :
    service.Sheds (service.free step) := by
  cases step with
  | release id =>
      obtain same | ⟨kind, _, released⟩ := service.allocators_release id
      · exact (sheds_refl sound).congr (congrArg allocators same)
      · exact (sheds_releaseFrom sound kind id).congr released
  | expire now => exact (sheds_expireAll sound now).congr (service.allocators_cleanup now)

theorem steady_mode (mode : UnpartitionedMode) : Steady fun service => service.mode = mode where
  aside _ _ _ _ held := held
  booked service kind device request clock held := by
    obtain ⟨_, _, _, booked⟩ := service.allocateIn_frame kind device request clock
    rw [booked]
    exact held
  released service kind id held := by
    obtain ⟨_, _, _, released⟩ := service.releaseFrom_frame kind id
    rw [released]
    exact held
  expired _ _ held := held
  rotated _ _ held := held
  counted _ _ _ held := held

theorem Steady.free {holds : AllocationService → Prop} (steady : Steady holds)
    (held : holds service) (step : Freeing) : holds (service.free step) := by
  cases step with
  | release id => exact steady.release held id
  | expire now => exact steady.cleanup held now

variable {ceiling : Nat}

theorem InOrder.available_release (inOrder : service.InOrder ceiling) (id : String)
    (available : service.registry.isAvailable device = true) :
    (service.release id).2.registry.isAvailable device = true := by
  obtain ⟨_, unknown⟩ | ⟨kind, place, live, member, rfl, done⟩ := inOrder.owned.release_cases id
  · rw [unknown]
    exact available
  · obtain ⟨_, closed⟩ := closeSession_frame
      ({ (service.releaseFrom kind live.id).2 with
        owners := service.owners.erase live.id }.syncCount live.device)
      { live with status := .completed }
    obtain ⟨_, _, _, frame⟩ := service.releaseFrom_frame kind live.id
    have kept : (service.releaseFrom kind live.id).2.registry = service.registry := by rw [frame]
    rw [done, closed]
    change ((service.releaseFrom kind live.id).2.registry.setActive live.device
      ((service.releaseFrom kind live.id).2.count live.device)).2.isAvailable device = true
    rw [kept]
    refine inOrder.assessed.isAvailable_setActive available fun _ => ?_
    have listed := mem_list.mpr ⟨kind, member⟩
    rw [← inOrder.owned.sound.located_list listed] at listed
    exact inOrder.within.count_lt (·.id ≠ live.id) (inOrder.owned.list_releaseFrom member _)
      ⟨live, listed, by simp⟩

theorem InOrder.available_cleanup (inOrder : service.InOrder ceiling) (now : Timestamp)
    (available : service.registry.isAvailable device = true) :
    (service.cleanup now).2.registry.isAvailable device = true := by
  have sound := inOrder.owned.sound
  let expired := (service.expireAll now).1
  let left : AllocationService :=
    { (service.expireAll now).2 with
      owners := expired.foldl (fun owners live => owners.erase live.id) service.owners }
  have assessed : left.registry.Assessed := inOrder.assessed
  have counted : (expired.foldl (fun service live => service.syncCount live.device)
      left).registry.isAvailable device = true := by
    refine isAvailable_syncCounts assessed available fun live member here => ?_
    have reported : live ∈ expired.filter (·.device = device) :=
      List.mem_filter.mpr ⟨member, decide_eq_true here⟩
    rw [expireAll_on sound] at reported
    obtain ⟨earlier, held, _⟩ := List.mem_map.mp reported
    obtain ⟨listed, past⟩ := List.mem_filter.mp held
    exact inOrder.within.count_lt (fun live => !live.isExpiredAt now)
      (list_expireAll sound now device) ⟨earlier, listed, by simp [past]⟩
  obtain ⟨_, closed⟩ := closeSessions_frame
    (expired.foldl (fun service live => service.syncCount live.device) left) expired
  change (expired.foldl closeSession (expired.foldl _ left)).registry.isAvailable device = true
  rw [closed]
  exact counted

theorem InOrder.lightened (inOrder : service.InOrder ceiling) (step : Freeing) :
    service.Lightened (service.free step) := by
  have described := (stable_described service.registry.described?).toSteady
  refine ⟨sheds_free inOrder.owned.sound step, (steady_mode service.mode).free rfl step,
    described.free rfl step, fun device available => ?_⟩
  cases step with
  | release id => exact inOrder.available_release id available
  | expire now => exact inOrder.available_cleanup now available

theorem InOrder.free (inOrder : service.InOrder ceiling) (step : Freeing) :
    (service.free step).InOrder ceiling := by
  cases step with
  | release id => exact inOrder.perform (.release id)
  | expire now => exact inOrder.perform (.cleanup now)

theorem InOrder.canAllocate_foldl_free (inOrder : service.InOrder ceiling)
    (passes : service.canAllocate device request = .ok ()) (steps : List Freeing) :
    (steps.foldl AllocationService.free service).canAllocate device request = .ok () := by
  induction steps generalizing service with
  | nil => exact passes
  | cons step rest ih =>
      have lightened := inOrder.lightened step
      exact ih (inOrder.free step)
        (lightened.canAllocate inOrder.owned.sound inOrder.partitioned.2 passes)

end Steps

end AllocationService

/-- Freeing capacity closes no door: in every state that an allocator or a node reaches, what
would be granted would still be granted after any releases and sweeps. -/
theorem run_grantable_after_freeing :
    (∀ policy operations device request (steps : List Freeing),
      let allocator := ({ policy } : FractionalAllocator).run operations
      allocator.canAllocate device request = .ok () →
        (steps.foldl LedgerKeeper.free allocator).canAllocate device request = .ok ()) ∧
    (∀ policy operations device request (steps : List Freeing),
      let allocator := ({ policy } : PartitionAllocator).run operations
      allocator.canAllocate device request = .ok () →
        (steps.foldl LedgerKeeper.free allocator).canAllocate device request = .ok ()) ∧
    (∀ config policy operations device request (steps : List Freeing),
      let scheduler := ({ config, policy } : TimeSlicingScheduler).run operations
      scheduler.canAllocate device request = .ok () →
        (steps.foldl LedgerKeeper.free scheduler).canAllocate device request = .ok ()) ∧
    ∀ (setup : ServiceSetup) operations device request (steps : List Freeing),
      let service := setup.service.run operations
      service.canAllocate device request = .ok () →
        (steps.foldl AllocationService.free service).canAllocate device request = .ok () := by
  refine ⟨?_, ?_, ?_, ?_⟩
  · intro policy operations device request steps allocator passes
    have sound := (FractionalAllocator.sound_new policy).run operations
    exact sound.canAllocate_freed (sound.settled.foldl_freed steps) passes
  · intro policy operations device request steps allocator passes
    have sound := (PartitionAllocator.sound_new policy).run operations
    have counted : allocator.MemoryCounted :=
      .run (PartitionAllocator.sound_new policy) (fun _ => Nat.zero_lt_succ _) operations
    exact counted.canAllocate_freed (sound.settled.foldl_freed steps) passes
  · intro config policy operations device request steps scheduler passes
    have sound := (TimeSlicingScheduler.sound_new config policy).run operations
    exact sound.canAllocate_freed (sound.settled.foldl_freed steps) passes
  · intro setup operations device request steps service passes
    have inOrder : service.InOrder setup.registry.maxAllocations :=
      (AllocationService.inOrder_new setup).run operations
    exact inOrder.canAllocate_foldl_free passes steps

/-- Half of a device is taken. -/
def halfGiven : List FractionalAllocator.Operation :=
  [.register "card0" 8192,
    .allocate "card0" (AllocationService.halfFor "a" .shared) AllocationService.firstSecond.wall]

/-- The other half is still to be had once the first is given back. -/
theorem grantable_halfGiven :
    let allocator := ({ policy := {} } : FractionalAllocator).run halfGiven
    let waiting := AllocationService.halfFor "b" .shared
    allocator.canAllocate "card0" waiting = .ok () ∧
      ([.release "a"].foldl LedgerKeeper.free allocator).canAllocate "card0" waiting = .ok () := by
  intro allocator waiting
  have passes : allocator.canAllocate "card0" waiting = .ok () := by decide +kernel
  exact ⟨passes, run_grantable_after_freeing.1 {} halfGiven "card0" waiting [.release "a"] passes⟩

end GpuSharing
