import GpuSharing.Proofs.Service.Stable

/-!
# Memory that the allocators have been told of

How much memory a device has, an allocator learns only when the device is entered. Whatever is
done after that, it keeps what it was told until the device is entered again.
-/

set_option autoImplicit false

namespace GpuSharing

namespace AllocationService

/-- How much memory the allocators of undivided devices take a device to have, and what the
scheduler was set up with. -/
structure Told (service : AllocationService) (config : SchedulerConfig) (device : String)
    (shared sliced : UInt64) : Prop where
  config_eq : service.scheduler.config = config
  shared_eq : service.fractional.memory? device = some shared
  sliced_eq : service.scheduler.memory? device = some sliced

theorem steady_told (config : SchedulerConfig) (device : String) (shared sliced : UInt64) :
    Steady fun service => service.Told config device shared sliced where
  aside _ _ _ _ told := ⟨told.config_eq, told.shared_eq, told.sliced_eq⟩
  booked service kind place request clock told := by
    cases kind with
    | fractional =>
        refine ⟨told.config_eq, ?_, told.sliced_eq⟩
        exact (congrFun (service.fractional.memory?_allocate place request clock.wall) device).trans
          told.shared_eq
    | partitionAware => exact ⟨told.config_eq, told.shared_eq, told.sliced_eq⟩
    | timeSlicing =>
        refine ⟨?_, told.shared_eq, ?_⟩
        · exact (service.scheduler.config_allocate place request clock).trans told.config_eq
        · exact TimeSlicingScheduler.memory?_allocate told.sliced_eq place request clock
  released service kind id told := by
    cases kind with
    | fractional =>
        refine ⟨told.config_eq, ?_, told.sliced_eq⟩
        exact (congrFun (service.fractional.memory?_release id) device).trans told.shared_eq
    | partitionAware => exact ⟨told.config_eq, told.shared_eq, told.sliced_eq⟩
    | timeSlicing =>
        refine ⟨told.config_eq, told.shared_eq, ?_⟩
        exact (congrFun (service.scheduler.memory?_release id) device).trans told.sliced_eq
  expired service now told :=
    ⟨told.config_eq,
      (congrFun (service.fractional.memory?_expire now) device).trans told.shared_eq,
      (congrFun (service.scheduler.memory?_expire now) device).trans told.sliced_eq⟩
  rotated service now told :=
    ⟨(service.scheduler.config_updateAll now).trans told.config_eq, told.shared_eq,
      (congrFun (service.scheduler.memory?_updateAll now) device).trans told.sliced_eq⟩
  counted _ _ _ told := ⟨told.config_eq, told.shared_eq, told.sliced_eq⟩

/-- The allocators have been told how much memory a device reports. The scheduler takes one that
reports none to have its default. -/
def Measured (service : AllocationService) (device : String) (reported : UInt64) : Prop :=
  service.Told service.scheduler.config device reported (service.scheduler.effectiveMemory reported)

variable {service : AllocationService} {device : String} {reported : UInt64}

theorem measured_iff : service.Measured device reported ↔ ∃ config : SchedulerConfig,
    service.Told config device reported
      (if reported = 0 then config.defaultMemoryMib else reported) := by
  constructor
  · intro told
    exact ⟨service.scheduler.config, told⟩
  · intro ⟨config, told⟩
    obtain rfl := told.config_eq
    exact told

theorem steady_measured (device : String) (reported : UInt64) :
    Steady fun service => service.Measured device reported := by
  simp only [measured_iff]
  exact .exists fun config => steady_told config device reported _

theorem Measured.withRegistry (measured : service.Measured device reported)
    (registry : DeviceRegistry) :
    ({ service with registry } : AllocationService).Measured device reported :=
  ⟨rfl, measured.shared_eq, measured.sliced_eq⟩

theorem measured_syncDevice (service : AllocationService) {entered : Device}
    (undivided : entered.descriptor.partition = none) (now : Instant) :
    (service.syncDevice entered now).2.Measured entered.descriptor.device
      entered.descriptor.memoryTotalMib := by
  unfold syncDevice
  rw [undivided]
  refine ⟨rfl, ?_, ?_⟩
  · exact (service.fractional.memory?_register _ _ _).trans (if_pos rfl)
  · exact (service.scheduler.memory?_register _ _ now _).trans (if_pos rfl)

/-- Only an undivided device of the same name can overwrite what was told. -/
theorem Measured.syncDevice (measured : service.Measured device reported) {entered : Device}
    (agrees : entered.descriptor.device = device → entered.descriptor.partition = none ∧
      entered.descriptor.memoryTotalMib = reported) (now : Instant) :
    (service.syncDevice entered now).2.Measured device reported := by
  by_cases same : entered.descriptor.device = device
  · obtain ⟨undivided, memory⟩ := agrees same
    rw [← same, ← memory]
    exact service.measured_syncDevice undivided now
  · unfold AllocationService.syncDevice
    cases entered.descriptor.partition with
    | some config => exact ⟨rfl, measured.shared_eq, measured.sliced_eq⟩
    | none =>
        refine ⟨rfl, ?_, ?_⟩
        · refine (service.fractional.memory?_register _ _ _).trans ?_
          rw [if_neg (Ne.symm same)]
          exact measured.shared_eq
        · refine (service.scheduler.memory?_register _ _ now _).trans ?_
          rw [if_neg (Ne.symm same)]
          exact measured.sliced_eq

section Covered

/-- A sync with some devices still to enter tells the allocators of a device: whatever is entered
under its name agrees, and the device is still to come or has been told. -/
structure Covers (service : AllocationService) (rest : List Device) (device : String)
    (reported : UInt64) : Prop where
  agrees : ∀ later ∈ rest, later.descriptor.device = device →
    later.descriptor.partition = none ∧ later.descriptor.memoryTotalMib = reported
  told : (∃ later ∈ rest, later.descriptor.device = device) ∨ service.Measured device reported

theorem Covers.measured (covers : service.Covers [] device reported) :
    service.Measured device reported := by
  rcases covers.told with ⟨_, none, _⟩ | measured
  · cases none
  · exact measured

theorem Covers.withRegistry {rest : List Device} (covers : service.Covers rest device reported)
    (registry : DeviceRegistry) :
    ({ service with registry } : AllocationService).Covers rest device reported :=
  ⟨covers.agrees, covers.told.imp_right (·.withRegistry registry)⟩

theorem Covers.syncDevice {first : Device} {rest : List Device}
    (covers : service.Covers (first :: rest) device reported) (now : Instant) :
    (service.syncDevice first now).2.Covers rest device reported where
  agrees later member := covers.agrees later (List.mem_cons_of_mem first member)
  told := by
    have agrees := covers.agrees first List.mem_cons_self
    rcases covers.told with ⟨later, member, named⟩ | measured
    · rcases List.mem_cons.mp member with rfl | still
      · obtain ⟨undivided, memory⟩ := agrees named
        rw [← named, ← memory]
        exact .inr (service.measured_syncDevice undivided now)
      · exact .inl ⟨later, still, named⟩
    · exact .inr (measured.syncDevice agrees now)

theorem Covers.syncEach {rest : List Device} (covers : service.Covers rest device reported)
    (now : Instant) : (service.syncEach now rest).2.Measured device reported := by
  induction rest generalizing service with
  | nil => exact covers.measured
  | cons first rest ih => exact ih (covers.syncDevice now)

/-- The list of all devices covers each undivided one. -/
theorem covers_list (assessed : service.registry.Assessed) {descriptor : DeviceDescriptor}
    (described : service.registry.described? device = some descriptor)
    (undivided : descriptor.partition = none) :
    service.Covers service.registry.list device descriptor.memoryTotalMib := by
  obtain ⟨known, stored, rfl⟩ := Option.map_eq_some_iff.mp described
  constructor
  · intro later member named
    obtain ⟨place, found⟩ := DeviceRegistry.mem_list.mp member
    rw [← (assessed place later found).1, named, stored, Option.some.injEq] at found
    subst found
    exact ⟨undivided, rfl⟩
  · exact .inl ⟨known, DeviceRegistry.mem_list.mpr ⟨device, stored⟩,
      (assessed device known stored).1⟩

theorem measured_sync (assessed : service.registry.Assessed) {now : Instant}
    {descriptor : DeviceDescriptor}
    (described : (service.sync now).2.registry.described? device = some descriptor)
    (undivided : descriptor.partition = none) :
    (service.sync now).2.Measured device descriptor.memoryTotalMib := by
  rw [described?_sync] at described
  exact (covers_list assessed described undivided).syncEach now

end Covered

end AllocationService

end GpuSharing
