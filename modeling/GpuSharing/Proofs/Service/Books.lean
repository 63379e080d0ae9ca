import GpuSharing.Proofs.Fractional
import GpuSharing.Proofs.Partition.Allocator
import GpuSharing.Proofs.Turns.Scheduler
import GpuSharing.Service.Release
import GpuSharing.Service.Sync

/-!
# The books of a service

What lives in which allocator, and what a grant, a release and an expiry do to it,
whichever allocator they go to. The service itself adds no way to change an
allocator: each of its steps uses the allocators as they are used alone.
-/

set_option autoImplicit false

namespace GpuSharing.AllocationService

/-- The live allocations that one allocator holds on a device. -/
def liveIn (service : AllocationService) : AllocatorKind → String → List GpuAllocation
  | .fractional, device => service.fractional.ledger.liveOn device
  | .partitionAware, device => service.partitioned.ledger.liveOn device
  | .timeSlicing, device => service.scheduler.ledger.liveOn device

theorem list_eq (service : AllocationService) (device : String) :
    service.list device = service.liveIn .fractional device ++
      (service.liveIn .partitionAware device ++ service.liveIn .timeSlicing device) := by
  unfold list
  refine (List.flatMap_congr fun kind _ => (?each : _ = service.liveIn kind device)).trans (by simp)
  cases kind with
  | fractional => exact Ledger.list_eq_liveOn _ device
  | partitionAware => exact Ledger.list_eq_liveOn _ device
  | timeSlicing => exact Ledger.list_eq_liveOn _ device

theorem countOf_eq_length (service : AllocationService) (kind : AllocatorKind)
    (device : String) : service.countOf kind device = (service.liveIn kind device).length := by
  cases kind with
  | fractional => exact Ledger.count_eq_length _ device
  | partitionAware => exact Ledger.count_eq_length _ device
  | timeSlicing => exact Ledger.count_eq_length _ device

theorem count_eq_length (service : AllocationService) (device : String) :
    service.count device = (service.list device).length := by
  simp only [count, countOf_eq_length, list_eq, List.length_append]
  omega

theorem mem_list {service : AllocationService} {device : String} {live : GpuAllocation} :
    live ∈ service.list device ↔ ∃ kind, live ∈ service.liveIn kind device := by
  simp only [list_eq, List.mem_append]
  constructor
  · rintro (shared | divided | sliced)
    · exact ⟨.fractional, shared⟩
    · exact ⟨.partitionAware, divided⟩
    · exact ⟨.timeSlicing, sliced⟩
  · rintro ⟨kind, member⟩
    cases kind with
    | fractional => exact .inl member
    | partitionAware => exact .inr (.inl member)
    | timeSlicing => exact .inr (.inr member)

theorem list_congr {before after : AllocationService} (same : after.liveIn = before.liveIn) :
    after.list = before.list := by
  funext device
  rw [list_eq, list_eq, same]

theorem count_congr {before after : AllocationService} (same : after.liveIn = before.liveIn) :
    after.count = before.count := by
  funext device
  rw [count_eq_length, count_eq_length, list_congr same]

structure Sound (service : AllocationService) : Prop where
  fractional : service.fractional.Sound
  partitioned : service.partitioned.Sound
  scheduler : service.scheduler.Sound

theorem Sound.nodup {service : AllocationService} (sound : service.Sound) (kind : AllocatorKind)
    (device : String) : ((service.liveIn kind device).map (·.id)).Nodup := by
  cases kind with
  | fractional => exact sound.fractional.coherent.distinct device
  | partitionAware => exact sound.partitioned.coherent.distinct device
  | timeSlicing => exact sound.scheduler.coherent.distinct device

theorem Sound.located {service : AllocationService} (sound : service.Sound)
    (kind : AllocatorKind) (device : String) :
    ∀ live ∈ service.liveIn kind device, live.device = device := by
  cases kind with
  | fractional => exact sound.fractional.coherent.located device
  | partitionAware => exact sound.partitioned.coherent.located device
  | timeSlicing => exact sound.scheduler.coherent.located device

theorem Sound.located_list {service : AllocationService} (sound : service.Sound)
    {device : String} {live : GpuAllocation} (member : live ∈ service.list device) :
    live.device = device := by
  obtain ⟨kind, held⟩ := mem_list.mp member
  exact sound.located kind device live held

section Allocators

/-- The parts of a service that hold allocations. -/
def allocators (service : AllocationService) :
    FractionalAllocator × PartitionAllocator × TimeSlicingScheduler :=
  (service.fractional, service.partitioned, service.scheduler)

variable {before after : AllocationService}

theorem liveIn_congr (same : after.allocators = before.allocators) :
    after.liveIn = before.liveIn := by
  obtain ⟨fractional, rest⟩ := Prod.mk.inj same
  obtain ⟨partitioned, scheduler⟩ := Prod.mk.inj rest
  funext kind device
  cases kind with
  | fractional => exact congrArg (·.ledger.liveOn device) fractional
  | partitionAware => exact congrArg (·.ledger.liveOn device) partitioned
  | timeSlicing => exact congrArg (·.ledger.liveOn device) scheduler

theorem Sound.congr (sound : before.Sound) (same : after.allocators = before.allocators) :
    after.Sound := by
  obtain ⟨fractional, rest⟩ := Prod.mk.inj same
  obtain ⟨partitioned, scheduler⟩ := Prod.mk.inj rest
  exact ⟨fractional ▸ sound.fractional, partitioned ▸ sound.partitioned,
    scheduler ▸ sound.scheduler⟩

end Allocators

section Grants

/-- One allocation was added at the end of what one allocator holds on its device, under
a name that the allocator did not hold. -/
structure Adds (before after : AllocationService) (kind : AllocatorKind)
    (allocation : GpuAllocation) : Prop where
  fresh : ∀ device, allocation.id ∉ (before.liveIn kind device).map (·.id)
  liveIn_eq : ∀ other device, after.liveIn other device =
    if other = kind ∧ device = allocation.device then before.liveIn other device ++ [allocation]
    else before.liveIn other device

theorem Adds.of_entered {δ : Type} [Booked δ] {ledger next : Ledger δ}
    {before after : AllocationService} {kind : AllocatorKind} {allocation : GpuAllocation}
    (coherent : ledger.Coherent) (entered : ledger.Entered next allocation)
    (held : before.liveIn kind = ledger.liveOn) (holds : after.liveIn kind = next.liveOn)
    (others : ∀ other, other ≠ kind → after.liveIn other = before.liveIn other) :
    before.Adds after kind allocation := by
  refine ⟨held ▸ coherent.fresh entered.unused, fun other device => ?_⟩
  by_cases mine : other = kind
  · simp only [mine, true_and, held, holds, entered.liveOn_eq]
  · simp only [mine, false_and, ↓reduceIte, others other mine]

theorem Adds.perm_list {before after : AllocationService} {kind : AllocatorKind}
    {allocation : GpuAllocation} (adds : before.Adds after kind allocation) (device : String) :
    (after.list device).Perm
      (if device = allocation.device then allocation :: before.list device
        else before.list device) := by
  rw [list_eq, list_eq]
  simp only [adds.liveIn_eq]
  by_cases here : device = allocation.device
  · simp only [here, and_true, if_true]
    cases kind with
    | fractional => simp
    | partitionAware =>
        have moved : (before.liveIn .fractional allocation.device ++
            before.liveIn .partitionAware allocation.device ++
            allocation :: before.liveIn .timeSlicing allocation.device).Perm _ := List.perm_middle
        simpa using moved
    | timeSlicing => simp [← List.append_assoc]
  · simp [here]

theorem Adds.count_eq {before after : AllocationService} {kind : AllocatorKind}
    {allocation : GpuAllocation} (adds : before.Adds after kind allocation) (device : String) :
    after.count device = before.count device + if device = allocation.device then 1 else 0 := by
  rw [count_eq_length, count_eq_length, (adds.perm_list device).length_eq]
  split
  · rfl
  · rfl

/-- What an allocator answers on its own, the service answers after it has put the
allocator back in its place. -/
theorem booked_cases {σ : Type} {service : AllocationService} {kind : AllocatorKind}
    {device : String} {request : AllocationRequest} (put : σ → AllocationService)
    (result : Outcome GpuAllocation × σ)
    (refused : ∀ failure next, result = (.error failure, next) → put next = service)
    (granted : ∀ allocation next, result = (.ok allocation, next) →
      allocation.Answers device request ∧ (put next).Sound ∧
        service.Adds (put next) kind allocation) :
    (∃ failure, (result.1, put result.2) = (.error failure, service)) ∨
    ∃ allocation next, (result.1, put result.2) = (.ok allocation, next) ∧
      allocation.Answers device request ∧ next.Sound ∧ service.Adds next kind allocation := by
  obtain ⟨outcome, next⟩ := result
  cases outcome with
  | error failure => exact .inl ⟨failure, by rw [refused failure next rfl]⟩
  | ok allocation => exact .inr ⟨allocation, put next, rfl, granted allocation next rfl⟩

/-- An allocator turns a request down without a trace, or books what was asked for. -/
theorem allocateIn_cases {service : AllocationService} (sound : service.Sound)
    (kind : AllocatorKind) (device : String) (request : AllocationRequest) (clock : Clock) :
    (∃ failure, service.allocateIn kind device request clock = (.error failure, service)) ∨
    ∃ allocation next, service.allocateIn kind device request clock = (.ok allocation, next) ∧
      allocation.Answers device request ∧ next.Sound ∧ service.Adds next kind allocation := by
  cases kind with
  | fractional =>
      have kept := sound.fractional.allocate device request clock.wall
      refine booked_cases (fun fractional => { service with fractional })
        (service.fractional.allocate device request clock.wall)
        (fun _ _ refused => by rw [FractionalAllocator.allocate_eq_error refused])
        fun allocation next granted => ?_
      rw [granted] at kept
      obtain ⟨answers, entered⟩ := FractionalAllocator.allocate_eq_ok granted
      refine ⟨answers, ⟨kept, sound.partitioned, sound.scheduler⟩,
        .of_entered sound.fractional.coherent entered rfl rfl fun other differs => ?_⟩
      cases other with
      | fractional => exact absurd rfl differs
      | partitionAware => rfl
      | timeSlicing => rfl
  | partitionAware =>
      have kept := sound.partitioned.allocate device request clock.wall
      refine booked_cases (fun partitioned => { service with partitioned })
        (service.partitioned.allocate device request clock.wall)
        (fun _ _ refused => by rw [PartitionAllocator.allocate_eq_error refused])
        fun allocation next granted => ?_
      rw [granted] at kept
      obtain ⟨answers, entered⟩ := PartitionAllocator.allocate_eq_ok granted
      refine ⟨answers, ⟨sound.fractional, kept, sound.scheduler⟩,
        .of_entered sound.partitioned.coherent entered rfl rfl fun other differs => ?_⟩
      cases other with
      | fractional => rfl
      | partitionAware => exact absurd rfl differs
      | timeSlicing => rfl
  | timeSlicing =>
      have kept := sound.scheduler.allocate device request clock
      refine booked_cases (fun scheduler => { service with scheduler })
        (service.scheduler.allocate device request clock)
        (fun _ _ refused => by rw [TimeSlicingScheduler.allocate_eq_error refused])
        fun allocation next granted => ?_
      rw [granted] at kept
      obtain ⟨answers, entered⟩ := TimeSlicingScheduler.allocate_eq_ok granted
      refine ⟨answers, ⟨sound.fractional, sound.partitioned, kept⟩,
        .of_entered sound.scheduler.coherent entered rfl rfl fun other differs => ?_⟩
      cases other with
      | fractional => rfl
      | partitionAware => rfl
      | timeSlicing => exact absurd rfl differs

theorem allocateIn_frame (service : AllocationService) (kind : AllocatorKind) (device : String)
    (request : AllocationRequest) (clock : Clock) :
    ∃ fractional partitioned scheduler, (service.allocateIn kind device request clock).2 =
      { service with fractional, partitioned, scheduler } := by
  cases kind with
  | fractional => exact ⟨_, _, _, rfl⟩
  | partitionAware => exact ⟨_, _, _, rfl⟩
  | timeSlicing => exact ⟨_, _, _, rfl⟩

end Grants

section Removals

variable {service : AllocationService}

theorem liveIn_releaseFrom (sound : service.Sound) (kind : AllocatorKind) (id : String)
    (other : AllocatorKind) (device : String) :
    (service.releaseFrom kind id).2.liveIn other device =
      if other = kind then (service.liveIn other device).filter (·.id ≠ id)
      else service.liveIn other device := by
  cases kind with
  | fractional =>
      cases other with
      | fractional => exact Ledger.liveOn_release sound.fractional.coherent id device
      | partitionAware => rfl
      | timeSlicing => rfl
  | partitionAware =>
      cases other with
      | fractional => rfl
      | partitionAware => exact Ledger.liveOn_release sound.partitioned.coherent id device
      | timeSlicing => rfl
  | timeSlicing =>
      cases other with
      | fractional => rfl
      | partitionAware => rfl
      | timeSlicing => exact Ledger.liveOn_release sound.scheduler.coherent id device

theorem Sound.releaseFrom (sound : service.Sound) (kind : AllocatorKind) (id : String) :
    (service.releaseFrom kind id).2.Sound := by
  cases kind with
  | fractional => exact ⟨sound.fractional.release id, sound.partitioned, sound.scheduler⟩
  | partitionAware => exact ⟨sound.fractional, sound.partitioned.release id, sound.scheduler⟩
  | timeSlicing => exact ⟨sound.fractional, sound.partitioned, sound.scheduler.release id⟩

theorem releaseFrom_frame (service : AllocationService) (kind : AllocatorKind) (id : String) :
    ∃ fractional partitioned scheduler, (service.releaseFrom kind id).2 =
      { service with fractional, partitioned, scheduler } := by
  cases kind with
  | fractional => exact ⟨_, _, _, rfl⟩
  | partitionAware => exact ⟨_, _, _, rfl⟩
  | timeSlicing => exact ⟨_, _, _, rfl⟩

theorem owners_releaseFrom (service : AllocationService) (kind : AllocatorKind) (id : String) :
    (service.releaseFrom kind id).2.owners = service.owners := by
  obtain ⟨_, _, _, released⟩ := service.releaseFrom_frame kind id
  rw [released]

/-- An allocation that was only just added is gone without a trace when it is released. -/
theorem Adds.undo {before after : AllocationService} {kind : AllocatorKind}
    {allocation : GpuAllocation} (adds : before.Adds after kind allocation)
    (sound : after.Sound) :
    (after.releaseFrom kind allocation.id).2.liveIn = before.liveIn := by
  funext other device
  rw [liveIn_releaseFrom sound, adds.liveIn_eq]
  by_cases mine : other = kind
  · have kept (live : GpuAllocation) (member : live ∈ before.liveIn kind device) :
        live.id ≠ allocation.id :=
      fun same => adds.fresh device (same ▸ List.mem_map_of_mem member)
    by_cases here : device = allocation.device
    · simpa [mine, here] using here ▸ kept
    · simpa [mine, here] using kept
  · simp [mine]

theorem liveIn_expireAll (sound : service.Sound) (now : Timestamp) (kind : AllocatorKind)
    (device : String) :
    (service.expireAll now).2.liveIn kind device =
      (service.liveIn kind device).filter fun live => !live.isExpiredAt now := by
  cases kind with
  | fractional => exact Ledger.liveOn_expire sound.fractional.coherent now device
  | partitionAware => exact Ledger.liveOn_expire sound.partitioned.coherent now device
  | timeSlicing => exact Ledger.liveOn_expire sound.scheduler.coherent now device

theorem list_expireAll (sound : service.Sound) (now : Timestamp) (device : String) :
    (service.expireAll now).2.list device =
      (service.list device).filter fun live => !live.isExpiredAt now := by
  simp only [list_eq, List.filter_append, liveIn_expireAll sound]

/-- The allocations of a device that an expiry reports are those that have expired on it. -/
theorem expireAll_on (sound : service.Sound) (now : Timestamp) (device : String) :
    (service.expireAll now).1.filter (·.device = device) =
      ((service.list device).filter (·.isExpiredAt now)).map
        fun live => { live with status := .expired } := by
  change ((service.fractional.ledger.expire now).1 ++
    (service.partitioned.ledger.expire now).1 ++
    (service.scheduler.ledger.expire now).1).filter _ = _
  simp only [list_eq, List.filter_append, List.map_append, List.append_assoc,
    Ledger.expire_on sound.fractional.coherent, Ledger.expire_on sound.partitioned.coherent,
    Ledger.expire_on sound.scheduler.coherent]
  rfl

theorem Sound.expireAll (sound : service.Sound) (now : Timestamp) :
    (service.expireAll now).2.Sound :=
  ⟨sound.fractional.expire now, sound.partitioned.expire now, sound.scheduler.expire now⟩

end Removals

section Upkeep

variable {service : AllocationService}

theorem map_liveIn_rotate {α : Type} (service : AllocationService) (now : Instant)
    (view : GpuAllocation → α)
    (unaffected : ∀ workload status, view { workload with status } = view workload)
    (kind : AllocatorKind) (device : String) :
    ((service.rotate now).2.liveIn kind device).map view =
      (service.liveIn kind device).map view := by
  cases kind with
  | fractional => rfl
  | partitionAware => rfl
  | timeSlicing => exact service.scheduler.map_liveOn_updateAll now view unaffected device

theorem map_list_rotate {α : Type} (service : AllocationService) (now : Instant)
    (view : GpuAllocation → α)
    (unaffected : ∀ workload status, view { workload with status } = view workload)
    (device : String) :
    ((service.rotate now).2.list device).map view = (service.list device).map view := by
  simp only [list_eq, List.map_append, map_liveIn_rotate service now view unaffected]

theorem Sound.rotate (sound : service.Sound) (now : Instant) : (service.rotate now).2.Sound :=
  ⟨sound.fractional, sound.partitioned, sound.scheduler.updateAll now⟩

theorem liveIn_syncDevice (service : AllocationService) (device : Device) (now : Instant) :
    (service.syncDevice device now).2.liveIn = service.liveIn := by
  funext kind other
  unfold syncDevice
  cases device.descriptor.partition with
  | some config =>
      cases kind with
      | fractional => rfl
      | partitionAware => exact PartitionAllocator.liveOn_register _ _ _ _ other
      | timeSlicing => rfl
  | none =>
      cases kind with
      | fractional => exact FractionalAllocator.liveOn_register _ _ _ other
      | partitionAware => rfl
      | timeSlicing => exact TimeSlicingScheduler.liveOn_register _ _ _ _ other

theorem Sound.syncDevice (sound : service.Sound) (device : Device) (now : Instant) :
    (service.syncDevice device now).2.Sound := by
  unfold AllocationService.syncDevice
  cases device.descriptor.partition with
  | some config =>
      exact ⟨sound.fractional, sound.partitioned.register _ _ config, sound.scheduler⟩
  | none =>
      exact ⟨sound.fractional.register _ _, sound.partitioned, sound.scheduler.register _ _ now⟩

theorem liveIn_sync (service : AllocationService) (now : Instant) :
    (service.sync now).2.liveIn = service.liveIn := by
  unfold sync
  induction service.registry.list generalizing service with
  | nil => rfl
  | cons device rest ih =>
      exact (ih (service.syncDevice device now).2).trans (service.liveIn_syncDevice device now)

theorem Sound.sync (sound : service.Sound) (now : Instant) : (service.sync now).2.Sound := by
  unfold AllocationService.sync
  induction service.registry.list generalizing service with
  | nil => exact sound
  | cons device rest ih => exact ih (sound.syncDevice device now)

end Upkeep

end GpuSharing.AllocationService
