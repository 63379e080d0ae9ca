import GpuSharing.Proofs.Service.Counts

/-!
# What the service's own steps keep

Apart from what discovery reports, a service changes its allocators and its registry in few
ways: it books, releases, expires and rotates, it sets counts, and it enters a device into the
allocators. What all of these keep, every use of the service keeps; what all but the last keep,
every use keeps that is not a sync.
-/

set_option autoImplicit false

namespace GpuSharing

namespace AllocationService

/-- A property that each of the few ways keeps, but for entering a device. Sessions, names and
the selector stand aside. -/
structure Steady (holds : AllocationService → Prop) : Prop where
  aside : ∀ service isolation owners selector, holds service →
    holds { service with isolation, owners, selector }
  booked : ∀ service kind device request clock, holds service →
    holds (service.allocateIn kind device request clock).2
  released : ∀ service kind id, holds service → holds (service.releaseFrom kind id).2
  expired : ∀ service now, holds service → holds (service.expireAll now).2
  rotated : ∀ service now, holds service → holds (service.rotate now).2
  counted : ∀ service device count, holds service →
    holds { service with registry := (service.registry.setActive device count).2 }

theorem Steady.exists {α : Type} {holds : α → AllocationService → Prop}
    (steady : ∀ value, Steady (holds value)) : Steady fun service => ∃ value, holds value service where
  aside service isolation owners selector := fun ⟨value, held⟩ =>
    ⟨value, (steady value).aside service isolation owners selector held⟩
  booked service kind device request clock := fun ⟨value, held⟩ =>
    ⟨value, (steady value).booked service kind device request clock held⟩
  released service kind id := fun ⟨value, held⟩ =>
    ⟨value, (steady value).released service kind id held⟩
  expired service now := fun ⟨value, held⟩ => ⟨value, (steady value).expired service now held⟩
  rotated service now := fun ⟨value, held⟩ => ⟨value, (steady value).rotated service now held⟩
  counted service device count := fun ⟨value, held⟩ =>
    ⟨value, (steady value).counted service device count held⟩

structure Stable (holds : AllocationService → Prop) : Prop extends Steady holds where
  entered : ∀ service device now, holds service → holds (service.syncDevice device now).2

namespace Steady

variable {holds : AllocationService → Prop} (steady : Steady holds) {service : AllocationService}

include steady

theorem syncCount (held : holds service) (device : String) : holds (service.syncCount device) :=
  steady.counted service device (service.count device) held

theorem grant (held : holds service) (device : String) (request : AllocationRequest)
    (clock : Clock) : holds (service.grant device request clock).2 := by
  unfold AllocationService.grant
  cases service.vet device request with
  | error failure => exact held
  | ok kind =>
      have booked := steady.booked service kind device request clock held
      dsimp only
      cases answered : service.allocateIn kind device request clock with
      | mk outcome next =>
          rw [answered] at booked
          cases outcome with
          | error failure => exact booked
          | ok allocation =>
              exact steady.syncCount (steady.aside next next.isolation
                (next.owners.insert allocation.id kind) next.selector booked) device

theorem complete (held : holds service) (kind : AllocatorKind) (allocation : GpuAllocation) :
    holds (service.complete kind allocation).2 := by
  rcases service.complete_cases kind allocation with
    ⟨isolation, _, completed⟩ | ⟨failure, isolation, _, undone⟩
  · rw [completed]
    exact steady.aside service isolation service.owners service.selector held
  · rw [undone]
    obtain ⟨owners, forgotten⟩ :=
      forget_frame { service with isolation } allocation.id kind
    rw [forgotten]
    exact steady.syncCount (steady.released _ kind allocation.id
      (steady.aside service isolation owners service.selector held)) allocation.device

theorem allocate (held : holds service) (device : String) (request : AllocationRequest)
    (clock : Clock) : holds (service.allocate device request clock).2 := by
  have granted := steady.grant held device request clock
  unfold AllocationService.allocate
  cases answered : service.grant device request clock with
  | mk outcome next =>
      rw [answered] at granted
      cases outcome with
      | error failure => exact granted
      | ok result => exact steady.complete granted result.1 result.2

theorem allocateAuto (held : holds service) (strategy : SelectionStrategy)
    (request : AllocationRequest) (clock : Clock) :
    holds (service.allocateAuto strategy request clock).2 := by
  rcases service.allocateAuto_picks strategy request clock with
    ⟨failure, refused⟩ | ⟨device, selector, picked⟩
  · rw [refused]
    exact held
  · rw [picked]
    exact steady.allocate
      (steady.aside service service.isolation service.owners selector held) device request clock

theorem release (held : holds service) (id : String) : holds (service.release id).2 := by
  rcases service.release_cases id with
    ⟨_, unknown⟩ | ⟨kind, _, ⟨_, _, refused⟩ | ⟨released, _, done⟩⟩
  · rw [unknown]
    exact held
  · rw [refused]
    exact steady.released service kind id held
  · rw [done]
    obtain ⟨isolation, closed⟩ := closeSession_frame
      ({ (service.releaseFrom kind id).2 with
        owners := service.owners.erase id }.syncCount released.device) released
    rw [closed]
    have left := steady.released service kind id held
    have counted := steady.syncCount (steady.aside _ (service.releaseFrom kind id).2.isolation
      (service.owners.erase id) (service.releaseFrom kind id).2.selector left) released.device
    exact steady.aside _ isolation (service.owners.erase id)
      (service.releaseFrom kind id).2.selector counted

theorem syncCounts (held : holds service) (allocations : List GpuAllocation) :
    holds (allocations.foldl (fun service live => service.syncCount live.device) service) := by
  induction allocations generalizing service with
  | nil => exact held
  | cons allocation rest ih => exact ih (steady.syncCount held allocation.device)

theorem closeSessions (held : holds service) (allocations : List GpuAllocation) :
    holds (allocations.foldl closeSession service) := by
  obtain ⟨isolation, closed⟩ := service.closeSessions_frame allocations
  rw [closed]
  exact steady.aside service isolation service.owners service.selector held

theorem cleanup (held : holds service) (now : Timestamp) : holds (service.cleanup now).2 := by
  have left := steady.expired service now held
  exact steady.closeSessions (steady.syncCounts (steady.aside _ service.isolation
    ((service.expireAll now).1.foldl (fun owners expired => owners.erase expired.id)
      service.owners) service.selector left) (service.expireAll now).1) (service.expireAll now).1

theorem checkHealth (held : holds service) : holds service.checkHealth.2 := by
  obtain ⟨isolation, checked⟩ := service.checkHealth_frame
  rw [checked]
  exact steady.aside service isolation service.owners service.selector held

end Steady

namespace Stable

variable {holds : AllocationService → Prop} (stable : Stable holds) {service : AllocationService}

include stable

theorem syncEach (held : holds service) (now : Instant) (devices : List Device) :
    holds (service.syncEach now devices).2 := by
  induction devices generalizing service with
  | nil => exact held
  | cons device rest ih => exact ih (stable.entered service device now held)

theorem sync (held : holds service) (now : Instant) : holds (service.sync now).2 :=
  stable.syncEach held now service.registry.list

end Stable

/-- Whether the devices are discovered anew. -/
def Operation.discovers : Operation → Bool
  | .refresh .. | .poll .. | .refreshDevice .. => true
  | _ => false

theorem Steady.perform {holds : AllocationService → Prop} (steady : Steady holds)
    {service : AllocationService} (held : holds service) {operation : Operation}
    (same : operation.discovers = false) (unsynced : ∀ now, operation ≠ .sync now) :
    holds (service.perform operation) := by
  cases operation with
  | allocate device request clock => exact steady.allocate held device request clock
  | allocateAuto strategy request clock => exact steady.allocateAuto held strategy request clock
  | release id => exact steady.release held id
  | cleanup now => exact steady.cleanup held now
  | rotate now => exact steady.rotated service now held
  | sync now => exact absurd rfl (unsynced now)
  | setActive device count => exact steady.counted service device count held
  | checkHealth => exact steady.checkHealth held
  | setBackend backend =>
      exact steady.aside service (service.isolation.map fun sessions => { sessions with backend })
        service.owners service.selector held
  | refresh | poll | refreshDevice => cases same

theorem Stable.perform {holds : AllocationService → Prop} (stable : Stable holds)
    {service : AllocationService} (held : holds service) {operation : Operation}
    (same : operation.discovers = false) : holds (service.perform operation) := by
  cases operation with
  | sync now => exact stable.sync held now
  | _ => exact stable.toSteady.perform held same fun now => Operation.noConfusion

/-- What does not look at the registry at all, discovery keeps as well. -/
theorem Stable.perform_of_unread {holds : AllocationService → Prop} (stable : Stable holds)
    (unread : ∀ service registry, holds service → holds { service with registry })
    {service : AllocationService} (held : holds service) (operation : Operation) :
    holds (service.perform operation) := by
  cases same : operation.discovers with
  | false => exact stable.perform held same
  | true =>
      cases operation with
      | refresh discovery clock =>
          change holds (service.refresh discovery clock).2
          unfold refresh
          cases service.registry.refreshAll discovery clock.wall with
          | mk outcome registry =>
              have entered := unread service registry held
              cases outcome with
              | error failure => exact entered
              | ok summary => exact stable.sync entered clock.monotonic
      | poll discovery now => exact unread service _ held
      | refreshDevice described now => exact unread service _ held
      | allocate | allocateAuto | release | cleanup | rotate | sync | setActive | checkHealth
      | setBackend => cases same

/-- What every use of the partition allocator keeps of it. -/
theorem stable_of_partitioned {holds : PartitionAllocator → Prop}
    (kept : ∀ allocator operation, holds allocator → holds (allocator.perform operation)) :
    Stable fun service => holds service.partitioned where
  aside _ _ _ _ held := held
  booked service kind device request clock held := by
    cases kind with
    | partitionAware =>
        exact kept service.partitioned (.allocate device request clock.wall) held
    | fractional | timeSlicing => exact held
  released service kind id held := by
    cases kind with
    | partitionAware => exact kept service.partitioned (.release id) held
    | fractional | timeSlicing => exact held
  expired service now held := kept service.partitioned (.expire now) held
  rotated _ _ held := held
  counted _ _ _ held := held
  entered service device now held := by
    unfold syncDevice
    cases device.descriptor.partition with
    | none => exact held
    | some config => exact kept service.partitioned (.register _ _ config) held

/-- What setting a count keeps of the registry. -/
theorem stable_of_registry {holds : DeviceRegistry → Prop}
    (counted : ∀ registry device count, holds registry →
      holds (registry.setActive device count).2) :
    Stable fun service => holds service.registry where
  aside _ _ _ _ held := held
  booked service kind device request clock held := by
    obtain ⟨_, _, _, booked⟩ := service.allocateIn_frame kind device request clock
    rw [booked]
    exact held
  released service kind id held := by
    obtain ⟨_, _, _, released⟩ := service.releaseFrom_frame kind id
    rw [released]
    exact held
  expired _ _ held := held
  rotated _ _ held := held
  counted service device count held := counted service.registry device count held
  entered service device now held := by
    rw [registry_syncDevice]
    exact counted service.registry device.descriptor.device _ held

theorem stable_described (described : String → Option DeviceDescriptor) :
    Stable fun service => service.registry.described? = described :=
  stable_of_registry fun registry device count same =>
    (registry.described?_setActive device count).trans same

theorem described?_sync (service : AllocationService) (now : Instant) :
    (service.sync now).2.registry.described? = service.registry.described? :=
  (stable_described _).sync rfl now

theorem stable_assessed : Stable fun service => service.registry.Assessed :=
  stable_of_registry fun _ device count assessed => assessed.setActive device count

theorem stable_subscriptions (subscriptions : List Subscription) :
    Stable fun service => service.registry.subscriptions = subscriptions :=
  stable_of_registry fun registry device count same =>
    (registry.subscriptions_setActive device count).trans same

section Registry

variable {service : AllocationService}

/-- What counting and discovery keep of the registry, every use of the service keeps. -/
theorem registry_perform {holds : DeviceRegistry → Prop}
    (counted : ∀ registry device count, holds registry →
      holds (registry.setActive device count).2)
    (refreshed : ∀ registry discovery now, holds registry →
      holds (registry.refreshAll discovery now).2)
    (described : ∀ registry described now, holds registry →
      holds (registry.refreshDevice described now).2)
    (held : holds service.registry) (operation : Operation) :
    holds (service.perform operation).registry := by
  have stable := stable_of_registry counted
  cases same : operation.discovers with
  | false => exact stable.perform held same
  | true =>
      cases operation with
      | refresh discovery clock =>
          have kept := refreshed service.registry discovery clock.wall held
          change holds (service.refresh discovery clock).2.registry
          unfold refresh
          cases found : service.registry.refreshAll discovery clock.wall with
          | mk outcome registry =>
              rw [found] at kept
              cases outcome with
              | error failure => exact kept
              | ok summary =>
                  have entered : holds ({ service with registry } : AllocationService).registry :=
                    kept
                  exact stable.sync entered clock.monotonic
      | poll discovery now => exact refreshed service.registry discovery now held
      | refreshDevice found now => exact described service.registry found now held
      | allocate | allocateAuto | release | cleanup | rotate | sync | setActive | checkHealth
      | setBackend => cases same

theorem assessed_perform (assessed : service.registry.Assessed) (operation : Operation) :
    (service.perform operation).registry.Assessed :=
  registry_perform (fun _ device count assessed => assessed.setActive device count)
    (fun _ discovery now assessed => assessed.refreshAll discovery now)
    (fun _ described now assessed => assessed.refreshDevice described now) assessed operation

theorem assessed_run (setup : ServiceSetup) (operations : List Operation) :
    (setup.service.run operations).registry.Assessed :=
  run_keeps (fun service => service.registry.Assessed)
    (fun _ operation assessed => assessed_perform assessed operation)
    (DeviceRegistry.assessed_new setup.registry) operations

/-- The limits of a node never change. -/
theorem config_perform (service : AllocationService) (operation : Operation) :
    (service.perform operation).registry.config = service.registry.config := by
  refine @registry_perform service (·.config = service.registry.config) ?_ ?_ ?_ rfl operation
  · intro registry device count same
    exact (registry.config_setActive device count).trans same
  · intro registry discovery now same
    exact (registry.config_refreshAll discovery now).trans same
  · intro registry described now same
    exact (registry.config_refreshDevice described now).trans same

end Registry

end AllocationService

end GpuSharing
