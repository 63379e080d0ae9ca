import GpuSharing.Proofs.Service.Rejection
import GpuSharing.Proofs.Service.Totals

/-!
# Entering one device

The allocators keep three books of a device, and a sync enters it into those that serve it. What
lives on the device stays on the books, with its place in the queue and its dies; the memory and
the division become those that the registry describes, unless the device is rejected.
-/

set_option autoImplicit false

namespace GpuSharing

/-- What the allocators know of one device. -/
structure DeviceBooks where
  shared : Option SharePool
  divided : Option PartitionedDevice
  sliced : Option SlicedDevice

namespace DeviceBooks

/-- A division is not taken over if it is not valid, or another one is in use. -/
def rejects (books : DeviceBooks) (descriptor : DeviceDescriptor) : Bool :=
  descriptor.partition.any fun config =>
    !config.validate.isOk ||
      books.divided.any fun known => known.config ≠ config && !known.pool.allocations.isEmpty

/-- The allocators that serve a device have the division and the memory that the registry
describes. The scheduler takes a device that reports no memory to have its default. -/
structure Agrees (books : DeviceBooks) (config : SchedulerConfig)
    (descriptor : DeviceDescriptor) : Prop where
  divided : ∀ division, descriptor.partition = some division → ∃ known,
    books.divided = some known ∧ known.config = division ∧
      known.pool.memoryTotalMib = descriptor.memoryTotalMib
  shared : descriptor.partition = none → ∃ pool,
    books.shared = some pool ∧ pool.memoryTotalMib = descriptor.memoryTotalMib
  sliced : descriptor.partition = none → ∃ known, books.sliced = some known ∧
    known.memoryTotalMib =
      if descriptor.memoryTotalMib = 0 then config.defaultMemoryMib else descriptor.memoryTotalMib

/-- What becomes of the books of a device that the registry describes. -/
structure Entered (before : DeviceBooks) (config : SchedulerConfig)
    (descriptor : DeviceDescriptor) (after : DeviceBooks) : Prop where
  shared : ∀ pool, before.shared = some pool →
    ∃ memoryTotalMib, after.shared = some { pool with memoryTotalMib }
  divided : ∀ known, before.divided = some known → ∃ config memoryTotalMib,
    after.divided = some { known with config, pool := { known.pool with memoryTotalMib } }
  sliced : ∀ known, before.sliced = some known →
    ∃ memoryTotalMib, after.sliced = some { known with memoryTotalMib }
  divided_eq : descriptor.partition = none → after.divided = before.divided
  shared_eq : descriptor.partition.isSome → after.shared = before.shared
  sliced_eq : descriptor.partition.isSome → after.sliced = before.sliced
  rejected : before.rejects descriptor → after = before
  accepted : before.rejects descriptor = false → after.Agrees config descriptor

variable {before after : DeviceBooks} {config : SchedulerConfig} {descriptor : DeviceDescriptor}

theorem rejects_of_undivided (undivided : descriptor.partition = none) :
    before.rejects descriptor = false := by
  rw [rejects, undivided, Option.any_none]

theorem rejects_eq_false_iff {division : PartitionConfig}
    (divided : descriptor.partition = some division) :
    before.rejects descriptor = false ↔ division.validate = .ok () ∧
      ∀ known, before.divided = some known →
        known.config = division ∨ known.pool.allocations = [] := by
  rw [rejects, divided, Option.any_some, Bool.or_eq_false_iff, Bool.not_eq_false', Outcome.isOk_iff]
  refine and_congr_right fun _ => ?_
  cases before.divided with
  | none => simp
  | some known => simp [or_iff_not_imp_left]

theorem Entered.rejects_eq (entered : before.Entered config descriptor after) :
    after.rejects descriptor = before.rejects descriptor := by
  cases refused : before.rejects descriptor with
  | true => rw [entered.rejected refused, refused]
  | false =>
      cases divided : descriptor.partition with
      | none => exact rejects_of_undivided divided
      | some division =>
          -- The division that was taken over is the one that the device is asked to have again.
          obtain ⟨known, found, same, _⟩ := (entered.accepted refused).divided division divided
          refine (rejects_eq_false_iff divided).mpr
            ⟨((rejects_eq_false_iff divided).mp refused).1, fun other stored => ?_⟩
          rw [found, Option.some.injEq] at stored
          exact .inl (stored ▸ same)

/-- The books of a rejected device stay as they are. -/
theorem entered_of_rejects (rejected : before.rejects descriptor) :
    before.Entered config descriptor before where
  shared pool known := ⟨pool.memoryTotalMib, known⟩
  divided known stored := ⟨known.config, known.pool.memoryTotalMib, stored⟩
  sliced known stored := ⟨known.memoryTotalMib, stored⟩
  divided_eq _ := rfl
  shared_eq _ := rfl
  sliced_eq _ := rfl
  rejected _ := rfl
  accepted accepted := by
    rw [rejected] at accepted
    cases accepted

/-- The division of a device is taken over, and what lives on it is kept. -/
theorem entered_of_accepts {division : PartitionConfig} {changed : PartitionedDevice}
    (accepted : before.rejects descriptor = false)
    (divided : descriptor.partition = some division) (config_eq : changed.config = division)
    (memory : changed.pool.memoryTotalMib = descriptor.memoryTotalMib)
    (kept : ∀ known, before.divided = some known → changed =
      { known with
        config := division
        pool := { known.pool with memoryTotalMib := descriptor.memoryTotalMib } }) :
    before.Entered config descriptor { before with divided := some changed } where
  shared pool known := ⟨pool.memoryTotalMib, known⟩
  divided known stored := ⟨division, descriptor.memoryTotalMib, congrArg some (kept known stored)⟩
  sliced known stored := ⟨known.memoryTotalMib, stored⟩
  divided_eq undivided := by
    rw [divided] at undivided
    cases undivided
  shared_eq _ := rfl
  sliced_eq _ := rfl
  rejected rejected := by
    rw [accepted] at rejected
    cases rejected
  accepted _ := by
    refine ⟨fun other same => ?_, fun undivided => ?_, fun undivided => ?_⟩
    · rw [divided, Option.some.injEq] at same
      exact ⟨changed, rfl, same ▸ config_eq, memory⟩
    · rw [divided] at undivided
      cases undivided
    · rw [divided] at undivided
      cases undivided

end DeviceBooks

namespace AllocationService

variable {service : AllocationService}

def booksOn (service : AllocationService) (device : String) : DeviceBooks where
  shared := service.fractional.ledger.devices.get? device
  divided := service.partitioned.ledger.devices.get? device
  sliced := service.scheduler.ledger.devices.get? device

theorem register_isOk_eq (service : AllocationService) {descriptor : DeviceDescriptor}
    {division : PartitionConfig} (divided : descriptor.partition = some division) :
    (service.partitioned.register descriptor.device descriptor.memoryTotalMib division).1.isOk =
      !(service.booksOn descriptor.device).rejects descriptor := by
  rw [Bool.eq_iff_iff, Bool.not_eq_true', DeviceBooks.rejects_eq_false_iff divided]
  exact PartitionAllocator.register_isOk_iff ..

theorem syncDevice_fst (service : AllocationService) (device : Device) (now : Instant) :
    (service.syncDevice device now).1 =
      !(service.booksOn device.descriptor.device).rejects device.descriptor := by
  unfold syncDevice
  cases divided : device.descriptor.partition with
  | none => rw [DeviceBooks.rejects_of_undivided divided, Bool.not_false]
  | some division => exact service.register_isOk_eq divided

theorem config_syncDevice (service : AllocationService) (device : Device) (now : Instant) :
    (service.syncDevice device now).2.scheduler.config = service.scheduler.config := by
  unfold syncDevice
  cases device.descriptor.partition with
  | none => rfl
  | some division => rfl

theorem booksOn_syncDevice_of_ne (device : Device) (now : Instant) {other : String}
    (elsewhere : other ≠ device.descriptor.device) :
    (service.syncDevice device now).2.booksOn other = service.booksOn other := by
  unfold syncDevice
  cases device.descriptor.partition with
  | none =>
      simp only [booksOn, syncCount, FractionalAllocator.register, TimeSlicingScheduler.register,
        Keyed.get?_insert, if_neg elsewhere]
  | some division =>
      rcases service.partitioned.register_cases device.descriptor.device
          device.descriptor.memoryTotalMib division with
        ⟨failure, refused⟩ | ⟨changed, _, _, _, registered⟩
      · simp only [refused, booksOn, syncCount]
      · simp only [registered, booksOn, syncCount, Keyed.get?_insert, if_neg elsewhere]

theorem entered_of_undivided (service : AllocationService) {device : Device}
    (undivided : device.descriptor.partition = none) (now : Instant) :
    (service.booksOn device.descriptor.device).Entered service.scheduler.config device.descriptor
      ((service.syncDevice device now).2.booksOn device.descriptor.device) := by
  have measured := service.measured_syncDevice undivided now
  constructor
  case shared =>
    intro pool known
    change service.fractional.ledger.devices.get? device.descriptor.device = some pool at known
    refine ⟨device.descriptor.memoryTotalMib, ?_⟩
    simp only [booksOn, syncDevice, undivided, syncCount, FractionalAllocator.register, known,
      Keyed.get?_insert_self]
  case divided =>
    intro known stored
    refine ⟨known.config, known.pool.memoryTotalMib, Eq.trans ?_ stored⟩
    simp only [booksOn, syncDevice, undivided, syncCount]
  case sliced =>
    intro sliced known
    change service.scheduler.ledger.devices.get? device.descriptor.device = some sliced at known
    refine ⟨service.scheduler.effectiveMemory device.descriptor.memoryTotalMib, ?_⟩
    simp only [booksOn, syncDevice, undivided, syncCount, TimeSlicingScheduler.register, known,
      Keyed.get?_insert_self]
  case divided_eq =>
    intro _
    simp only [booksOn, syncDevice, undivided, syncCount]
  case shared_eq | sliced_eq =>
    intro divided
    rw [undivided] at divided
    cases divided
  case rejected =>
    intro rejected
    rw [DeviceBooks.rejects_of_undivided undivided] at rejected
    cases rejected
  case accepted =>
    intro _
    refine ⟨fun division divided => ?_, fun _ => ?_, fun _ => ?_⟩
    · rw [undivided] at divided
      cases divided
    · exact Option.map_eq_some_iff.mp measured.shared_eq
    · obtain ⟨known, found, memory⟩ := Option.map_eq_some_iff.mp measured.sliced_eq
      refine ⟨known, found, memory.trans ?_⟩
      rw [TimeSlicingScheduler.effectiveMemory, config_syncDevice]

theorem entered_of_divided (sound : service.Sound) {device : Device} {division : PartitionConfig}
    (divided : device.descriptor.partition = some division) (now : Instant) :
    (service.booksOn device.descriptor.device).Entered service.scheduler.config device.descriptor
      ((service.syncDevice device now).2.booksOn device.descriptor.device) := by
  have answer := service.register_isOk_eq divided
  have books : (service.syncDevice device now).2.booksOn device.descriptor.device =
      { service.booksOn device.descriptor.device with
        divided := (service.partitioned.register device.descriptor.device
          device.descriptor.memoryTotalMib division).2.ledger.devices.get?
            device.descriptor.device } := by
    simp only [booksOn, syncDevice, divided, syncCount]
  rw [books]
  rcases sound.partitioned.register_cases device.descriptor.device
      device.descriptor.memoryTotalMib division with
    ⟨failure, refused⟩ | ⟨changed, config, memory, kept, registered⟩
  · rw [refused] at answer ⊢
    exact DeviceBooks.entered_of_rejects (Bool.not_inj answer.symm)
  · rw [registered] at answer ⊢
    simp only [Keyed.get?_insert_self]
    exact DeviceBooks.entered_of_accepts (Bool.not_inj answer.symm) divided config memory
      kept

theorem entered_syncDevice (sound : service.Sound) (device : Device) (now : Instant) :
    (service.booksOn device.descriptor.device).Entered service.scheduler.config device.descriptor
      ((service.syncDevice device now).2.booksOn device.descriptor.device) := by
  cases divided : device.descriptor.partition with
  | none => exact service.entered_of_undivided divided now
  | some division => exact entered_of_divided sound divided now

/-- A device whose books are as the registry describes it, or that is rejected, is entered without
a trace. -/
theorem syncDevice_eq_self {device : Device} (now : Instant)
    (agrees : (service.booksOn device.descriptor.device).rejects device.descriptor = false →
      (service.booksOn device.descriptor.device).Agrees service.scheduler.config
        device.descriptor)
    (recorded : service.syncCount device.descriptor.device = service) :
    service.syncDevice device now =
      (!(service.booksOn device.descriptor.device).rejects device.descriptor, service) := by
  refine Prod.ext (service.syncDevice_fst device now) ?_
  unfold syncDevice
  cases divided : device.descriptor.partition with
  | none =>
      have agreed := agrees (DeviceBooks.rejects_of_undivided divided)
      have shared : service.fractional.memory? device.descriptor.device =
          some device.descriptor.memoryTotalMib :=
        Option.map_eq_some_iff.mpr (agreed.shared divided)
      have sliced : service.scheduler.memory? device.descriptor.device =
          some (service.scheduler.effectiveMemory device.descriptor.memoryTotalMib) :=
        Option.map_eq_some_iff.mpr (agreed.sliced divided)
      simp only [FractionalAllocator.register_eq_self shared,
        TimeSlicingScheduler.register_eq_self sliced]
      exact recorded
  | some division =>
      have answer := service.register_isOk_eq divided
      suffices same : (service.partitioned.register device.descriptor.device
          device.descriptor.memoryTotalMib division).2 = service.partitioned by
        simp only [same]
        exact recorded
      cases rejected : (service.booksOn device.descriptor.device).rejects device.descriptor with
      | true =>
          rcases service.partitioned.register_cases device.descriptor.device
              device.descriptor.memoryTotalMib division with
            ⟨failure, refused⟩ | ⟨_, _, _, _, registered⟩
          · rw [refused]
          · rw [registered, rejected] at answer
            cases answer
      | false =>
          obtain ⟨known, stored, rfl, memory⟩ := (agrees rejected).divided division divided
          have valid := ((DeviceBooks.rejects_eq_false_iff divided).mp rejected).1
          rw [← memory, PartitionAllocator.register_eq_self stored valid]

end AllocationService

end GpuSharing
