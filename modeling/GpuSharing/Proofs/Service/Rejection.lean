import GpuSharing.Proofs.Discovery.Description
import GpuSharing.Proofs.Service.Stable

/-!
# Devices that are not accepted

A divided device is entered into its allocator unless its division is not valid, or another
one is in use. Where nothing lives in the partition allocator, only validity decides, so a
sync rejects exactly the devices whose division is not valid.
-/

set_option autoImplicit false

namespace GpuSharing

/-- The engine can allocate on the device: it is not divided, or in a valid way. -/
def DeviceDescriptor.Allocatable (descriptor : DeviceDescriptor) : Prop :=
  ∀ config, descriptor.partition = some config → config.validate = .ok ()

/-- A division is taken over if it is valid and in use already, or none is in use. -/
theorem PartitionAllocator.register_isOk_iff (allocator : PartitionAllocator) (device : String)
    (memoryTotalMib : UInt64) (config : PartitionConfig) :
    (allocator.register device memoryTotalMib config).1.isOk ↔
      config.validate = .ok () ∧ ∀ known, allocator.ledger.devices.get? device = some known →
        known.config = config ∨ known.pool.allocations = [] := by
  unfold register
  cases config.validate with
  | error failure => simp [Except.isOk, Except.toBool]
  | ok =>
      cases allocator.ledger.devices.get? device with
      | none => simp [Except.isOk, Except.toBool]
      | some known =>
          by_cases same : known.config = config
          · simp [same, Except.isOk, Except.toBool]
          · by_cases unused : known.pool.allocations = []
            · simp [same, unused, Except.isOk, Except.toBool]
            · simp [same, unused, refuse, Except.isOk, Except.toBool]

namespace AllocationService

/-- The devices that are not accepted when a report has come in and the allocators are synced. -/
def rejectedAfter (service : AllocationService) (report : DiscoveryReport) (clock : Clock) :
    List String :=
  let refreshed : AllocationService :=
    { service with registry := (service.registry.refreshAll (.ok report) clock.wall).2 }
  (refreshed.sync clock.monotonic).1

section Rejections

variable {service : AllocationService}

theorem syncDevice_accepts_iff (idle : ∀ device, service.liveIn .partitionAware device = [])
    (device : Device) (now : Instant) :
    (service.syncDevice device now).1 = true ↔ device.descriptor.Allocatable := by
  unfold syncDevice DeviceDescriptor.Allocatable
  cases device.descriptor.partition with
  | none => simp
  | some config =>
      simp only [Option.some.injEq, forall_eq']
      refine (PartitionAllocator.register_isOk_iff ..).trans (and_iff_left ?_)
      intro known found
      have empty := idle device.descriptor.device
      rw [liveIn, Ledger.liveOn_eq found] at empty
      exact .inr empty

theorem mem_rejected_syncEach (idle : ∀ device, service.liveIn .partitionAware device = [])
    (now : Instant) (devices : List Device) (id : String) :
    id ∈ (service.syncEach now devices).1 ↔
      ∃ device ∈ devices, device.descriptor.device = id ∧ ¬device.descriptor.Allocatable := by
  induction devices generalizing service with
  | nil => simp [syncEach]
  | cons first rest ih =>
      have idleNext (device : String) :
          (service.syncDevice first now).2.liveIn .partitionAware device = [] := by
        rw [liveIn_syncDevice]
        exact idle device
      have others := ih idleNext
      have accepted := syncDevice_accepts_iff idle first now
      change id ∈ (if (service.syncDevice first now).1 = true
        then ((service.syncDevice first now).2.syncEach now rest).1
        else first.descriptor.device ::
          ((service.syncDevice first now).2.syncEach now rest).1) ↔ _
      by_cases fits : first.descriptor.Allocatable
      · rw [if_pos (accepted.mpr fits), others]
        simp [fits]
      · rw [if_neg (mt accepted.mp fits), List.mem_cons, others]
        simp [fits, eq_comm]

/-- After a refresh, a sync rejects a listed device exactly if the last that is listed of it
has a division that is not valid. -/
theorem mem_rejectedAfter_iff
    (idle : ∀ device, service.liveIn .partitionAware device = [])
    (assessed : service.registry.Assessed) {report : DiscoveryReport} {id : String}
    {descriptor : DeviceDescriptor} (last : report.last? id = some descriptor) (clock : Clock) :
    id ∈ service.rejectedAfter report clock ↔ ¬descriptor.Allocatable := by
  unfold rejectedAfter
  have entered := service.registry.get?_refreshAll_of_last? clock.wall last
  have refreshed := assessed.refreshAll (.ok report) clock.wall
  generalize (service.registry.refreshAll (.ok report) clock.wall).2 = registry at entered refreshed
  have idleStill : ∀ device,
      ({ service with registry } : AllocationService).liveIn .partitionAware device = [] := idle
  refine (mem_rejected_syncEach idleStill ..).trans ?_
  constructor
  · rintro ⟨device, listed, rfl, divided⟩
    obtain ⟨key, stored⟩ := DeviceRegistry.mem_list.mp listed
    obtain rfl := (refreshed key device stored).1
    rw [stored] at entered
    cases entered
    exact divided
  · intro divided
    refine ⟨_, DeviceRegistry.mem_list.mpr ⟨id, entered⟩, ?_, divided⟩
    exact (refreshed id _ entered).1

end Rejections

end AllocationService

end GpuSharing
