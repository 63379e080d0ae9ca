import GpuSharing.Proofs.Service.Totals

/-!
# Devices that the allocators know

The registry learns of devices from discovery, the allocators only when they are synced with
it. No allocator forgets a device, so whatever is done after a sync, short of discovering
devices without one, the allocators know what they may have to serve.
-/

set_option autoImplicit false

namespace GpuSharing

section KnownDevices

variable {δ : Type} {ledger : Ledger δ} {device : String}

theorem Ledger.containsDevice_iff {β : Type} (view : δ → β) : ledger.containsDevice device ↔
    ∃ value, (ledger.devices.get? device).map view = some value := by
  unfold containsDevice Keyed.contains
  cases ledger.devices.get? device with
  | none => simp
  | some books => simp

/-- No ledger forgets a device. -/
theorem Ledger.containsDevice_insert (other : String) (books : δ) (owners : Keyed String)
    (known : ledger.containsDevice device) :
    Ledger.containsDevice { devices := ledger.devices.insert other books, owners } device := by
  unfold containsDevice Keyed.contains at known ⊢
  rw [Keyed.get?_insert]
  split
  · rfl
  · exact known

theorem Ledger.containsDevice_self (books : δ) (owners : Keyed String) :
    Ledger.containsDevice { devices := ledger.devices.insert device books, owners } device := by
  simp [containsDevice, Keyed.contains]

end KnownDevices

namespace AllocationService

section Synced

/-- Both allocators of undivided devices know a device. -/
def Knows (service : AllocationService) (device : String) : Prop :=
  service.fractional.ledger.containsDevice device ∧
    service.scheduler.ledger.containsDevice device

/-- The allocators know every device that they may have to serve. The partition allocator
does not grant anything on a device that it does not know. -/
def Synced (service : AllocationService) : Prop :=
  ∀ device known, service.registry.devices.get? device = some known →
    known.descriptor.partition = none → service.Knows device

theorem synced_new (setup : ServiceSetup) : setup.service.Synced :=
  fun _ _ stored => by cases stored

theorem knows_iff {service : AllocationService} {device : String} : service.Knows device ↔
    ∃ config shared sliced, service.Told config device shared sliced := by
  constructor
  · intro ⟨known, queued⟩
    obtain ⟨shared, told⟩ := (Ledger.containsDevice_iff _).mp known
    obtain ⟨sliced, assumed⟩ := (Ledger.containsDevice_iff _).mp queued
    exact ⟨service.scheduler.config, shared, sliced, rfl, told, assumed⟩
  · intro ⟨_, shared, sliced, told⟩
    exact ⟨(Ledger.containsDevice_iff _).mpr ⟨shared, told.shared_eq⟩,
      (Ledger.containsDevice_iff _).mpr ⟨sliced, told.sliced_eq⟩⟩

theorem stable_knows (device : String) : Stable fun service => service.Knows device where
  toSteady := by
    simp only [knows_iff]
    exact .exists fun config => .exists fun shared => .exists fun sliced =>
      steady_told config device shared sliced
  entered service other now held := by
    unfold syncDevice
    cases other.descriptor.partition with
    | some config => exact held
    | none =>
        exact ⟨Ledger.containsDevice_insert _ _ _ held.1, Ledger.containsDevice_insert _ _ _ held.2⟩

variable {service : AllocationService}

theorem knows_syncEach (now : Instant) (devices : List Device) :
    ∀ device ∈ devices, device.descriptor.partition = none →
      (service.syncEach now devices).2.Knows device.descriptor.device := by
  induction devices generalizing service with
  | nil =>
      intro device member
      cases member
  | cons first rest ih =>
      intro device member undivided
      rcases List.mem_cons.mp member with rfl | later
      · have entered : (service.syncDevice device now).2.Knows device.descriptor.device := by
          unfold syncDevice
          rw [undivided]
          exact ⟨Ledger.containsDevice_self _ _, Ledger.containsDevice_self _ _⟩
        exact (stable_knows device.descriptor.device).syncEach entered now rest
      · exact ih device later undivided

theorem synced_sync (assessed : service.registry.Assessed) (now : Instant) :
    (service.sync now).2.Synced := by
  intro device known stored undivided
  have known := DeviceRegistry.described?_of_get? stored
  rw [described?_sync] at known
  obtain ⟨earlier, found, described⟩ := Option.map_eq_some_iff.mp known
  have listed : earlier ∈ service.registry.list :=
    DeviceRegistry.mem_list.mpr ⟨device, found⟩
  have knows : (service.sync now).2.Knows earlier.descriptor.device :=
    knows_syncEach now service.registry.list earlier listed (described ▸ undivided)
  rw [(assessed device earlier found).1] at knows
  exact knows

/-- Only discovery that is not followed by a sync can bring up a device that the allocators
do not know. -/
theorem Synced.perform (assessed : service.registry.Assessed) (synced : service.Synced)
    {operation : Operation} (unpolled : ∀ discovery now, operation ≠ .poll discovery now)
    (unread : ∀ described now, operation ≠ .refreshDevice described now) :
    (service.perform operation).Synced := by
  cases same : operation.discovers with
  | false =>
      intro device known stored undivided
      have kept : (service.perform operation).registry.described? = service.registry.described? :=
        (stable_described _).perform rfl same
      have known := DeviceRegistry.described?_of_get? stored
      rw [kept] at known
      obtain ⟨earlier, found, described⟩ := Option.map_eq_some_iff.mp known
      exact (stable_knows device).perform
        (synced device earlier found (described ▸ undivided)) same
  | true =>
      cases operation with
      | refresh discovery clock =>
          change (service.refresh discovery clock).2.Synced
          unfold refresh
          cases discovery with
          | error error => exact synced
          | ok report =>
              have refreshed : ({ service with
                  registry := (service.registry.refreshAll (.ok report) clock.wall).2 } :
                    AllocationService).registry.Assessed :=
                assessed.refreshAll (.ok report) clock.wall
              exact synced_sync refreshed clock.monotonic
      | poll discovery now => exact absurd rfl (unpolled discovery now)
      | refreshDevice described now => exact absurd rfl (unread described now)
      | allocate | allocateAuto | release | cleanup | rotate | sync | setActive | checkHealth
      | setBackend => cases same

theorem Synced.run (assessed : service.registry.Assessed) (synced : service.Synced)
    {operations : List Operation}
    (unpolled : ∀ discovery now, Operation.poll discovery now ∉ operations)
    (unread : ∀ described now, Operation.refreshDevice described now ∉ operations) :
    (service.run operations).Synced := by
  induction operations generalizing service with
  | nil => exact synced
  | cons operation rest ih =>
      refine ih (assessed_perform assessed operation) (synced.perform assessed ?_ ?_) ?_ ?_
      · intro discovery now same
        exact unpolled discovery now (same ▸ List.mem_cons_self)
      · intro described now same
        exact unread described now (same ▸ List.mem_cons_self)
      · intro discovery now member
        exact unpolled discovery now (List.mem_cons_of_mem operation member)
      · intro described now member
        exact unread described now (List.mem_cons_of_mem operation member)

end Synced

end AllocationService

end GpuSharing
