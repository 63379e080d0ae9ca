import GpuSharing.Proofs.Pruning

/-!
# Devices are independent

All devices of an allocator stand on one ledger, next to one index of names. What is done about
one device looks at its books and at the names that it is about, and writes to nothing else. So
two operations about different devices and different names do not notice each other: they give
the same answers in either order, failures included, and leave the same state.
-/

set_option autoImplicit false

namespace GpuSharing

namespace Ledger

/-- An entry of a ledger: the books of a device, or the owner of a name. -/
inductive Slot where
  | device (id : String)
  | name (id : String)
  deriving DecidableEq

variable {δ : Type}

def view (ledger : Ledger δ) : Slot → Option δ ⊕ Option String
  | .device id => .inl (ledger.devices.get? id)
  | .name id => .inr (ledger.owners.get? id)

theorem view_device_inj {first second : Ledger δ} {id : String} :
    first.view (.device id) = second.view (.device id) ↔
      first.devices.get? id = second.devices.get? id :=
  Sum.inl_injective.eq_iff

theorem view_name_inj {first second : Ledger δ} {id : String} :
    first.view (.name id) = second.view (.name id) ↔
      first.owners.get? id = second.owners.get? id :=
  Sum.inr_injective.eq_iff

/-- A ledger is what stands at its slots. -/
theorem ext_view {first second : Ledger δ}
    (same : ∀ slot, first.view slot = second.view slot) : first = second := by
  apply ext_get?
  · intro device
    exact view_device_inj.mp (same (.device device))
  · intro id
    exact view_name_inj.mp (same (.name id))

/-- The slots that a name leads to: its own, and the device that it lives on, if any. -/
def slotsOf (ledger : Ledger δ) (id : String) : List Slot :=
  .name id :: (ledger.owners.get? id).toList.map .device

/-- A change that leaves all slots but some alone. What it writes at a slot depends on
nothing that stands elsewhere. -/
structure Writes (change : Ledger δ → Ledger δ) (slots : List Slot) : Prop where
  elsewhere : ∀ ledger slot, slot ∉ slots → (change ledger).view slot = ledger.view slot
  slotwise : ∀ first second slot, first.view slot = second.view slot →
    (change first).view slot = (change second).view slot

section Changes

variable {slots : List Slot}

theorem writes_nothing (slots : List Slot) : Writes (fun ledger : Ledger δ => ledger) slots :=
  ⟨fun _ _ _ => rfl, fun _ _ _ same => same⟩

theorem Writes.comp {first second : Ledger δ → Ledger δ} (also : Writes second slots)
    (writes : Writes first slots) : Writes (fun ledger => second (first ledger)) slots := by
  constructor
  · intro ledger slot away
    exact (also.elsewhere (first ledger) slot away).trans (writes.elsewhere ledger slot away)
  · intro one other slot same
    exact also.slotwise _ _ slot (writes.slotwise one other slot same)

/-- Books are put in their slot. -/
theorem writes_books {device : String} (member : .device device ∈ slots) (books : δ) :
    Writes (fun ledger => { ledger with devices := ledger.devices.insert device books })
      slots := by
  constructor
  · intro ledger slot away
    cases slot with
    | name id => rfl
    | device id =>
        have other : id ≠ device := fun same => away (same ▸ member)
        rw [view_device_inj, Keyed.get?_insert, if_neg other]
  · intro first second slot same
    cases slot with
    | name id => exact same
    | device id =>
        rw [view_device_inj] at same
        rw [view_device_inj, Keyed.get?_insert, Keyed.get?_insert, same]

/-- A name is given an owner, or forgotten. -/
theorem writes_name {id : String} (member : .name id ∈ slots) {change : Keyed String → Keyed String}
    {owner : Option String} (written : ∀ owners other,
      (change owners).get? other = if other = id then owner else owners.get? other) :
    Writes (fun ledger : Ledger δ => { ledger with owners := change ledger.owners }) slots := by
  constructor
  · intro ledger slot away
    cases slot with
    | device id => rfl
    | name other =>
        have different : other ≠ id := fun same => away (same ▸ member)
        rw [view_name_inj, written, if_neg different]
  · intro first second slot same
    cases slot with
    | device id => exact same
    | name other =>
        rw [view_name_inj] at same
        rw [view_name_inj, written, written, same]

theorem writes_enter {device : String} {allocation : GpuAllocation}
    (onDevice : .device device ∈ slots) (named : .name allocation.id ∈ slots) (books : δ) :
    Writes (fun ledger => ledger.enter device books allocation) slots :=
  (writes_name named fun owners => owners.get?_insert allocation.id device).comp
    (writes_books onDevice books)

/-- Changes of different slots can be made in either order. -/
theorem Writes.commute {first second : Ledger δ → Ledger δ} {others : List Slot}
    (writes : Writes first slots) (also : Writes second others) (apart : slots.Disjoint others)
    (ledger : Ledger δ) : second (first ledger) = first (second ledger) := by
  apply ext_view
  intro slot
  by_cases here : slot ∈ slots
  · have away : slot ∉ others := fun there => apart here there
    calc (second (first ledger)).view slot
        = (first ledger).view slot := also.elsewhere _ slot away
      _ = (first (second ledger)).view slot :=
          writes.slotwise _ _ slot (also.elsewhere ledger slot away).symm
  · calc (second (first ledger)).view slot
        = (second ledger).view slot :=
          also.slotwise _ _ slot (writes.elsewhere ledger slot here)
      _ = (first (second ledger)).view slot := (writes.elsewhere _ slot here).symm

end Changes

end Ledger

/-- Two operations that do not notice each other. -/
structure EitherOrder {κ α β : Type} (first : κ → α × κ) (second : κ → β × κ) (start : κ) :
    Prop where
  first_answer : (first (second start).2).1 = (first start).1
  second_answer : (second (first start).2).1 = (second start).1
  same_state : (second (first start).2).2 = (first (second start).2).2

section Confined

open LedgerKeeper Ledger

variable {κ δ : Type} [Booked δ] [LedgerKeeper κ δ] {α β : Type}

/-- Whatever stands at all other slots of the ledger, the answer is the same, and so is the
change, which leaves those slots alone. -/
inductive ConfinedTo (act : κ → α × κ) (slots : List Slot) (start : κ) : Prop where
  | intro (answer : α) (change : Ledger δ → Ledger δ) (writes : Writes change slots)
      (acts : ∀ other, (∀ slot ∈ slots, other.view slot = (ledger start).view slot) →
        act (withLedger start other) = (answer, withLedger start (change other)))

theorem ConfinedTo.eitherOrder {first : κ → α × κ} {second : κ → β × κ} {start : κ}
    {slots others : List Slot} (confined : ConfinedTo first slots start)
    (also : ConfinedTo second others start) (apart : slots.Disjoint others) :
    EitherOrder first second start := by
  obtain ⟨answer, change, writes, acts⟩ := confined
  obtain ⟨reply, turn, alters, replies⟩ := also
  have firstAlone : first start = (answer, withLedger start (change (ledger start))) := by
    simpa only [withLedger_ledger] using acts (ledger start) fun _ _ => rfl
  have secondAlone : second start = (reply, withLedger start (turn (ledger start))) := by
    simpa only [withLedger_ledger] using replies (ledger start) fun _ _ => rfl
  have firstAfter := acts (turn (ledger start)) fun slot here =>
    alters.elsewhere (ledger start) slot fun there => apart here there
  have secondAfter := replies (change (ledger start)) fun slot there =>
    writes.elsewhere (ledger start) slot fun here => apart here there
  constructor
  · rw [secondAlone, firstAfter, firstAlone]
  · rw [firstAlone, secondAfter, secondAlone]
  · rw [firstAlone, secondAlone, secondAfter, firstAfter,
      writes.commute alters apart (ledger start)]

section OneDevice

variable {device : String} {act : κ → α × κ} {start : κ} {known : Option δ}

/-- What the books of a device decide, and what changes nothing. -/
theorem confined_answer (stored : (ledger start).devices.get? device = known) (answer : α)
    (acts : ∀ other, other.devices.get? device = known →
      act (withLedger start other) = (answer, withLedger start other)) :
    ConfinedTo act [.device device] start := by
  refine ⟨answer, _, writes_nothing _, fun other agrees => acts other ?_⟩
  exact (view_device_inj.mp (agrees _ (List.mem_singleton_self _))).trans stored

/-- What the books of a device decide, and what puts other books in their place. -/
theorem confined_books (stored : (ledger start).devices.get? device = known) (answer : α)
    (books : δ) (acts : ∀ other, other.devices.get? device = known →
      act (withLedger start other) = (answer, withLedger start
        { other with devices := other.devices.insert device books })) :
    ConfinedTo act [.device device] start := by
  have member : Slot.device device ∈ [Slot.device device] := List.mem_singleton_self _
  refine ⟨answer, _, writes_books member books, fun other agrees => acts other ?_⟩
  exact (view_device_inj.mp (agrees _ member)).trans stored

/-- What a device and a name decide, and what enters the two. -/
theorem confined_entry {id : String} {allocation : GpuAllocation} (named : allocation.id = id)
    (answer : α) (books : δ)
    (acts : ∀ other, (∀ slot ∈ [.device device, .name id],
        other.view slot = (ledger start).view slot) →
      act (withLedger start other) = (answer, withLedger start
        (other.enter device books allocation))) :
    ConfinedTo act [.device device, .name id] start :=
  ⟨answer, _, writes_enter List.mem_cons_self (by simp [named]) books, acts⟩

end OneDevice

/-- A release looks at the name, and at the device that the name leads to. -/
theorem release_confined (keeper : κ) (id : String) :
    ConfinedTo (fun current : κ => release current id) ((ledger keeper).slotsOf id) keeper := by
  have named : .name id ∈ (ledger keeper).slotsOf id := List.mem_cons_self
  cases owner : (ledger keeper).owners.get? id with
  | none =>
      refine ⟨refuse (.notFound .allocation id), _, writes_nothing _, fun other agrees => ?_⟩
      have unused := (view_name_inj.mp (agrees _ named)).trans owner
      rw [release_eq, ledger_withLedger, Ledger.release, unused, withLedger_withLedger]
  | some device =>
      have onDevice : .device device ∈ (ledger keeper).slotsOf id := by
        simp [slotsOf, owner]
      have forgets := writes_name (δ := δ) named fun owners => owners.get?_erase id
      cases removed : ((ledger keeper).devices.get? device).bind (Booked.remove? · id) with
      | none =>
          refine ⟨refuse (.notFound .allocation id), _, forgets, fun other agrees => ?_⟩
          have indexed := (view_name_inj.mp (agrees _ named)).trans owner
          have books := view_device_inj.mp (agrees _ onDevice)
          rw [release_eq, ledger_withLedger, Ledger.release, indexed]
          simp only [books, removed, withLedger_withLedger]
      | some result =>
          obtain ⟨taken, left⟩ := result
          refine ⟨.ok { taken with status := .completed }, _,
            forgets.comp (writes_books onDevice left), fun other agrees => ?_⟩
          have indexed := (view_name_inj.mp (agrees _ named)).trans owner
          have books := view_device_inj.mp (agrees _ onDevice)
          rw [release_eq, ledger_withLedger, Ledger.release, indexed]
          simp only [books, removed, withLedger_withLedger]

end Confined

open Ledger

section Fractional

namespace FractionalAllocator

/-- What is done about one device or one allocation, with the slots that it is about. -/
inductive Concerns (allocator : FractionalAllocator) :
    {α : Type} → (FractionalAllocator → α × FractionalAllocator) → List Slot → Prop where
  | register (device : String) (memoryTotalMib : UInt64) :
      Concerns allocator (fun current => ((), current.register device memoryTotalMib))
        [.device device]
  | allocate (device : String) (request : AllocationRequest) (now : Timestamp) :
      Concerns allocator (·.allocate device request now) [.device device, .name request.id]
  | release (id : String) : Concerns allocator (·.release id) (allocator.ledger.slotsOf id)

variable {allocator : FractionalAllocator}

theorem register_confined (device : String) (memoryTotalMib : UInt64) :
    ConfinedTo (fun current : FractionalAllocator =>
      ((), current.register device memoryTotalMib)) [.device device] allocator := by
  cases known : allocator.ledger.devices.get? device with
  | none =>
      refine confined_books known () { memoryTotalMib } fun other books => ?_
      simp only [LedgerKeeper.withLedger, register, books]
  | some pool =>
      refine confined_books known () { pool with memoryTotalMib } fun other books => ?_
      simp only [LedgerKeeper.withLedger, register, books]

/-- A check looks at the device and at the name that is asked for. -/
theorem check_congr {other : Ledger SharePool} {device : String} {request : AllocationRequest}
    (agrees : ∀ slot ∈ [Slot.device device, .name request.id],
      other.view slot = allocator.ledger.view slot) :
    { allocator with ledger := other }.check device request = allocator.check device request := by
  have books := view_device_inj.mp (agrees _ List.mem_cons_self)
  have owner := view_name_inj.mp (agrees (.name request.id) (by simp))
  simp only [check, requireUnused, Ledger.device, books, owner]

theorem allocate_confined (device : String) (request : AllocationRequest) (now : Timestamp) :
    ConfinedTo (fun current : FractionalAllocator => current.allocate device request now)
      [.device device, .name request.id] allocator := by
  cases checked : allocator.check device request with
  | error failure =>
      refine ⟨.error failure, _, writes_nothing _, fun other agrees => ?_⟩
      simp only [LedgerKeeper.withLedger, allocate, check_congr agrees, checked]
  | ok result =>
      obtain ⟨pool, share⟩ := result
      let granted : GpuAllocation := .ofRequest device request share .active now
      have named : granted.id = request.id := rfl
      refine confined_entry named (.ok granted) (pool.push granted) fun other agrees => ?_
      simp only [LedgerKeeper.withLedger, allocate, check_congr agrees, checked, granted]

theorem Concerns.confined {α : Type} {act : FractionalAllocator → α × FractionalAllocator}
    {slots : List Slot} (concerns : allocator.Concerns act slots) :
    ConfinedTo act slots allocator := by
  cases concerns with
  | register device memoryTotalMib => exact register_confined device memoryTotalMib
  | allocate device request now => exact allocate_confined device request now
  | release id => exact release_confined allocator id

end FractionalAllocator

end Fractional

section Partitioned

theorem PartitionedDevice.id_of_claim? {device claimed : PartitionedDevice}
    {allocation granted : GpuAllocation}
    (claim : device.claim? allocation = some (granted, claimed)) :
    granted.id = allocation.id := by
  obtain ⟨_, rfl, _⟩ | ⟨_, _, _, _, rfl, _⟩ := claim?_cases claim
  · rfl
  · rfl

namespace PartitionAllocator

/-- What is done about one device or one allocation, with the slots that it is about. -/
inductive Concerns (allocator : PartitionAllocator) :
    {α : Type} → (PartitionAllocator → α × PartitionAllocator) → List Slot → Prop where
  | register (device : String) (memoryTotalMib : UInt64) (config : PartitionConfig) :
      Concerns allocator (·.register device memoryTotalMib config) [.device device]
  | allocate (device : String) (request : AllocationRequest) (now : Timestamp) :
      Concerns allocator (·.allocate device request now) [.device device, .name request.id]
  | release (id : String) : Concerns allocator (·.release id) (allocator.ledger.slotsOf id)

variable {allocator : PartitionAllocator}

/-- Whether a device is entered, kept or refused depends on its books alone. -/
theorem register_confined (device : String) (memoryTotalMib : UInt64) (config : PartitionConfig) :
    ConfinedTo (fun current : PartitionAllocator => current.register device memoryTotalMib config)
      [.device device] allocator := by
  cases valid : config.validate with
  | error failure =>
      refine confined_answer rfl (.error failure) fun other _ => ?_
      simp only [LedgerKeeper.withLedger, register, valid]
  | ok =>
      cases known : allocator.ledger.devices.get? device with
      | none =>
          refine confined_books known (.ok ()) { config, pool := { memoryTotalMib } }
            fun other books => ?_
          simp only [LedgerKeeper.withLedger, register, valid, books]
      | some found =>
          by_cases same : found.config = config
          · refine confined_books known (.ok ())
              { found with pool := { found.pool with memoryTotalMib } } fun other books => ?_
            simp only [LedgerKeeper.withLedger, register, valid, books, if_pos same]
          · by_cases unused : found.pool.allocations = []
            · refine confined_books known (.ok ())
                { config, pool := { found.pool with memoryTotalMib } } fun other books => ?_
              simp only [LedgerKeeper.withLedger, register, valid, books, if_neg same,
                if_pos unused]
            · refine confined_answer known (allocator.register device memoryTotalMib config).1
                fun other books => ?_
              simp only [LedgerKeeper.withLedger, register, valid, books, known, if_neg same,
                if_neg unused]

theorem check_congr {other : Ledger PartitionedDevice} {device : String}
    {request : AllocationRequest}
    (agrees : ∀ slot ∈ [Slot.device device, .name request.id],
      other.view slot = allocator.ledger.view slot) :
    { allocator with ledger := other }.check device request = allocator.check device request := by
  have books := view_device_inj.mp (agrees _ List.mem_cons_self)
  have owner := view_name_inj.mp (agrees (.name request.id) (by simp))
  simp only [check, requireUnused, Ledger.device, books, owner]

theorem allocate_confined (device : String) (request : AllocationRequest) (now : Timestamp) :
    ConfinedTo (fun current : PartitionAllocator => current.allocate device request now)
      [.device device, .name request.id] allocator := by
  cases checked : allocator.check device request with
  | error failure =>
      refine ⟨.error failure, _, writes_nothing _, fun other agrees => ?_⟩
      simp only [LedgerKeeper.withLedger, allocate, check_congr agrees, checked]
  | ok result =>
      obtain ⟨books, share⟩ := result
      obtain ⟨_, _, _, _, fits⟩ := check_eq_ok.mp checked
      obtain ⟨granted, claimed, claim⟩ : ∃ granted claimed,
          books.claim? (.ofRequest device request share .active now) = some (granted, claimed) :=
        PartitionedDevice.claim?_of_check fits
      have named : granted.id = request.id := PartitionedDevice.id_of_claim? claim
      refine confined_entry named (.ok granted) { claimed with pool := claimed.pool.push granted }
        fun other agrees => ?_
      simp only [LedgerKeeper.withLedger, allocate, check_congr agrees, checked, claim]

theorem Concerns.confined {α : Type} {act : PartitionAllocator → α × PartitionAllocator}
    {slots : List Slot} (concerns : allocator.Concerns act slots) :
    ConfinedTo act slots allocator := by
  cases concerns with
  | register device memoryTotalMib config => exact register_confined device memoryTotalMib config
  | allocate device request now => exact allocate_confined device request now
  | release id => exact release_confined allocator id

end PartitionAllocator

end Partitioned

section Sliced

namespace TimeSlicingScheduler

/-- What is done about one device or one allocation, with the slots that it is about. -/
inductive Concerns (scheduler : TimeSlicingScheduler) :
    {α : Type} → (TimeSlicingScheduler → α × TimeSlicingScheduler) → List Slot → Prop where
  | register (device : String) (reported : UInt64) (now : Instant) :
      Concerns scheduler (fun current => ((), current.register device reported now))
        [.device device]
  | allocate (device : String) (request : AllocationRequest) (clock : Clock) :
      Concerns scheduler (·.allocate device request clock) [.device device, .name request.id]
  | release (id : String) : Concerns scheduler (·.release id) (scheduler.ledger.slotsOf id)
  | update (device : String) (now : Instant) :
      Concerns scheduler (·.update device now) [.device device]

variable {scheduler : TimeSlicingScheduler}

theorem register_confined (device : String) (reported : UInt64) (now : Instant) :
    ConfinedTo (fun current : TimeSlicingScheduler => ((), current.register device reported now))
      [.device device] scheduler := by
  cases known : scheduler.ledger.devices.get? device with
  | none =>
      refine confined_books known ()
        { memoryTotalMib := scheduler.effectiveMemory reported, lastSwitch := now }
        fun other books => ?_
      simp only [LedgerKeeper.withLedger, register, effectiveMemory, books]
  | some found =>
      refine confined_books known ()
        { found with memoryTotalMib := scheduler.effectiveMemory reported } fun other books => ?_
      simp only [LedgerKeeper.withLedger, register, effectiveMemory, books]

theorem check_congr {other : Ledger SlicedDevice} {device : String} {request : AllocationRequest}
    (agrees : ∀ slot ∈ [Slot.device device, .name request.id],
      other.view slot = scheduler.ledger.view slot) :
    { scheduler with ledger := other }.check device request = scheduler.check device request := by
  have books := view_device_inj.mp (agrees _ List.mem_cons_self)
  have owner := view_name_inj.mp (agrees (.name request.id) (by simp))
  simp only [check, requireUnused, books, owner]

/-- A first use enters the device, which no other device notices. -/
theorem allocate_confined (device : String) (request : AllocationRequest) (clock : Clock) :
    ConfinedTo (fun current : TimeSlicingScheduler => current.allocate device request clock)
      [.device device, .name request.id] scheduler := by
  cases checked : scheduler.check device request with
  | error failure =>
      refine ⟨.error failure, _, writes_nothing _, fun other agrees => ?_⟩
      simp only [LedgerKeeper.withLedger, allocate, check_congr agrees, checked]
  | ok share =>
      let granted : GpuAllocation := .ofRequest device request share .pending clock.wall
      have named : granted.id = request.id := rfl
      refine confined_entry named (.ok granted)
        ((scheduler.deviceOrNew device clock.monotonic).enqueue granted) fun other agrees => ?_
      have books := view_device_inj.mp (agrees _ List.mem_cons_self)
      simp only [LedgerKeeper.withLedger, allocate, check_congr agrees, checked, deviceOrNew,
        books, granted]
      rfl

/-- A device that is not known has no turn to pass on, whatever the others do. -/
theorem update_confined (device : String) (now : Instant) :
    ConfinedTo (fun current : TimeSlicingScheduler => current.update device now)
      [.device device] scheduler := by
  cases known : scheduler.ledger.devices.get? device with
  | none =>
      refine confined_answer known (refuse (.notFound .device device)) fun other books => ?_
      simp only [LedgerKeeper.withLedger, update, Ledger.device, books]
      rfl
  | some found =>
      by_cases early : now.since found.lastSwitch < scheduler.config.timeSlice
      · refine confined_answer known (.ok none) fun other books => ?_
        simp only [LedgerKeeper.withLedger, update, Ledger.device, books, if_pos early]
      · refine confined_books known (.ok (some (found.rotate now).1)) (found.rotate now).2
          fun other books => ?_
        simp only [LedgerKeeper.withLedger, update, Ledger.device, books, if_neg early]

theorem Concerns.confined {α : Type} {act : TimeSlicingScheduler → α × TimeSlicingScheduler}
    {slots : List Slot} (concerns : scheduler.Concerns act slots) :
    ConfinedTo act slots scheduler := by
  cases concerns with
  | register device reported now => exact register_confined device reported now
  | allocate device request clock => exact allocate_confined device request clock
  | release id => exact release_confined scheduler id
  | update device now => exact update_confined device now

end TimeSlicingScheduler

end Sliced

/-- In every state of an allocator of any kind, two operations about different devices and
different names can be done in either order. -/
theorem operations_independent :
    (∀ (allocator : FractionalAllocator) {α β : Type}
      (first : FractionalAllocator → α × FractionalAllocator)
      (second : FractionalAllocator → β × FractionalAllocator) (slots others : List Slot),
      allocator.Concerns first slots → allocator.Concerns second others →
      slots.Disjoint others → EitherOrder first second allocator) ∧
    (∀ (allocator : PartitionAllocator) {α β : Type}
      (first : PartitionAllocator → α × PartitionAllocator)
      (second : PartitionAllocator → β × PartitionAllocator) (slots others : List Slot),
      allocator.Concerns first slots → allocator.Concerns second others →
      slots.Disjoint others → EitherOrder first second allocator) ∧
    ∀ (scheduler : TimeSlicingScheduler) {α β : Type}
      (first : TimeSlicingScheduler → α × TimeSlicingScheduler)
      (second : TimeSlicingScheduler → β × TimeSlicingScheduler) (slots others : List Slot),
      scheduler.Concerns first slots → scheduler.Concerns second others →
      slots.Disjoint others → EitherOrder first second scheduler := by
  refine ⟨?_, ?_, ?_⟩
  · intro allocator _ _ first second slots others concerns also apart
    exact concerns.confined.eitherOrder also.confined apart
  · intro allocator _ _ first second slots others concerns also apart
    exact concerns.confined.eitherOrder also.confined apart
  · intro scheduler _ _ first second slots others concerns also apart
    exact concerns.confined.eitherOrder also.confined apart

/-- A request for half of a device, under the name of its pod. -/
def halfOfDevice (id : String) : AllocationRequest :=
  { id
    workload := { pod := id, space := "default", container := "main" }
    fraction := 0.5
    memoryMib := 1024
    isolation := .shared
    sharing := false }

/-- Two devices are used for the first time, by two workloads. -/
theorem independent_firstUses :
    EitherOrder (·.allocate "card0" (halfOfDevice "a") ⟨⟨1700000000, 0⟩, ⟨0⟩⟩)
      (·.allocate "card1" (halfOfDevice "b") ⟨⟨1700000000, 0⟩, ⟨0⟩⟩)
      ({ config := {}, policy := {} } : TimeSlicingScheduler) :=
  operations_independent.2.2 _ _ _ _ _ (.allocate ..) (.allocate ..)
    (by simp [halfOfDevice, List.Disjoint])

end GpuSharing
