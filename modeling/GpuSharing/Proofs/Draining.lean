import GpuSharing.Proofs.Admission
import GpuSharing.Proofs.Freeing
import GpuSharing.Proofs.Selection.Capable
import GpuSharing.Proofs.Share

/-!
# Waiting for a device to drain

An allocator turns a request down for the time being where the device has too little left of
what is asked for, and for good for any other reason. On a device that nothing lives on, every
valid share is left, all dies are free and no memory is in use. So a request that was turned
down for the time being is granted once the device has drained, unless it asks for more memory
than the device has at all. Such a request is turned down for the time being again and again.
-/

set_option autoImplicit false

namespace GpuSharing

section Refusals

/-- Whatever the outcome is turned down for, no waiting changes it. -/
def Outcome.Lasting {α : Type} (outcome : Outcome α) : Prop :=
  ∀ failure, outcome = .error failure → failure.error.isTransient = false

namespace Outcome

variable {α β : Type}

theorem lasting_ok (value : α) : Lasting (.ok value) := by
  intro failure failed
  cases failed

theorem lasting_refuse {error : AllocationError} (lasting : error.isTransient = false) :
    Lasting (refuse error : Outcome α) := by
  intro failure failed
  cases failed
  exact lasting

theorem lasting_require {condition : Prop} [Decidable condition] {error : AllocationError}
    (lasting : error.isTransient = false) : Lasting (require condition error) := by
  intro failure failed
  obtain ⟨_, rfl⟩ := require_eq_error.mp failed
  exact lasting

theorem Lasting.bind {first : Outcome α} {next : α → Outcome β} (lasting : first.Lasting)
    (also : ∀ value, (next value).Lasting) : (first >>= next).Lasting := by
  intro failure failed
  obtain early | ⟨value, _, late⟩ := bind_eq_error.mp failed
  · exact lasting failure early
  · exact also value failure late

/-- What waiting may change is not turned down by a step that refuses for good. -/
theorem Lasting.passed {first : Outcome α} {next : α → Outcome β} (lasting : first.Lasting)
    {failure : Failure} (failed : (first >>= next) = .error failure)
    (transient : failure.error.isTransient = true) :
    ∃ value, first = .ok value ∧ next value = .error failure := by
  obtain early | late := bind_eq_error.mp failed
  · rw [lasting failure early] at transient
    cases transient
  · exact late

end Outcome

open Outcome

theorem Share.lasting_ofFraction (fraction : Float) : (Share.ofFraction fraction).Lasting := by
  unfold ofFraction
  split
  · exact lasting_ok _
  · exact lasting_refuse rfl

theorem AllocationPolicy.lasting_vet (policy : AllocationPolicy) (request : AllocationRequest) :
    (policy.vet request).Lasting := by
  unfold vet
  apply Lasting.bind (lasting_require rfl)
  intro _
  apply Lasting.bind (Share.lasting_ofFraction _)
  intro share
  apply Lasting.bind (lasting_require rfl)
  intro _
  apply Lasting.bind (lasting_require rfl)
  intro _
  apply Lasting.bind (lasting_require rfl)
  intro _
  exact lasting_ok share

theorem AllocationPolicy.share_le_of_vet {policy : AllocationPolicy} {request : AllocationRequest}
    {share : Share} (vetted : policy.vet request = .ok share) :
    share.millis.toNat ≤ Share.scale := by
  simp only [vet, Outcome.bind_eq_ok, Outcome.pure_eq_ok] at vetted
  obtain ⟨_, _, _, accepted, _, _, _, _, _, _, rfl⟩ := vetted
  exact (Share.ofFraction_bounds accepted).2

theorem ComputeMode.lasting_shareOf (mode : ComputeMode) (fraction : Float) :
    (mode.shareOf fraction).Lasting := by
  unfold shareOf
  split
  · exact lasting_ok _
  · exact lasting_refuse rfl

theorem Ledger.device_eq_ok {δ : Type} {ledger : Ledger δ} {id : String} {books : δ} :
    ledger.device id = .ok books ↔ ledger.devices.get? id = some books := by
  unfold device
  cases ledger.devices.get? id with
  | none => simp [refuse]
  | some found => simp

theorem Ledger.lasting_device {δ : Type} (ledger : Ledger δ) (id : String) :
    (ledger.device id).Lasting := by
  unfold device
  cases ledger.devices.get? id with
  | none => exact lasting_refuse rfl
  | some found => exact lasting_ok found

/-- What holds of the usage of a known device holds of what its books say. -/
theorem Ledger.exists_usage_iff {δ : Type} [Booked δ] {ledger : Ledger δ} {id : String} {books : δ}
    (known : ledger.devices.get? id = some books) {holds : DeviceUsage → Prop} :
    (∃ usage, ledger.usage id = .ok usage ∧ holds usage) ↔ holds (Booked.usage books id) := by
  constructor
  · rintro ⟨usage, told, held⟩
    obtain ⟨found, stored, rfl⟩ := usage_eq_ok.mp told
    cases known.symm.trans stored
    exact held
  · intro held
    exact ⟨_, usage_eq_ok.mpr ⟨books, known, rfl⟩, held⟩

theorem GrantsAsChecked.error_of_refused {κ : Type} {before : κ} {checked : Outcome Unit}
    {granted : Outcome GpuAllocation × κ} (agrees : GrantsAsChecked before checked granted)
    {failure : Failure} (refused : granted.1 = .error failure) : checked = .error failure := by
  cases agrees with
  | granted => cases refused
  | refused => exact congrArg Except.error (Except.error.inj refused)

/-- A check whose result is not needed is turned down for the reason that it has itself. -/
theorem Outcome.error_of_discarded {α : Type} {outcome : Outcome α} {failure : Failure}
    (failed : (do let _ ← outcome; pure ()) = Except.error failure) : outcome = .error failure := by
  obtain early | ⟨_, _, late⟩ := bind_eq_error.mp failed
  · exact early
  · cases late

end Refusals

section Empty

theorem SharePool.remaining_of_empty {pool : SharePool} (empty : pool.allocations = []) :
    pool.shareUsed.remaining.millis.toNat = Share.scale := by
  rw [Share.toNat_remaining, toNat_shareUsed, empty]
  rfl

theorem SharePool.memoryFree_of_empty {pool : SharePool} (empty : pool.allocations = []) :
    pool.memoryFreeMib = pool.memoryTotalMib := by
  have none : totalMemory pool.allocations = 0 := by rw [empty]; rfl
  have used := @toNat_memoryUsedMib_eq pool (by rw [none]; decide)
  apply UInt64.toNat_inj.mp
  rw [memoryFreeMib, toNat_monus, used, none, Nat.sub_zero]

/-- Every share that a mode has to give can be given of a device that is empty. -/
theorem PartitionedDevice.Accounted.hasRoom_of_empty {device : PartitionedDevice}
    (accounted : device.Accounted) (empty : device.pool.allocations = []) {share : Share}
    (valid : share ∈ device.config.computeMode.shares) : device.HasRoom share := by
  have free : device.dies.freeCount = dieCount := by
    rw [accounted.dies_eq_empty empty]
    decide
  unfold HasRoom
  cases mode : device.config.computeMode with
  | spx => exact empty
  | cpx =>
      rw [mode] at valid
      have whole := ComputeMode.millis_of_mem_cpx valid
      rw [ComputeMode.shares_cpx] at valid
      dsimp only
      rw [free]
      revert share
      decide
  | tpx =>
      rw [mode, ComputeMode.shares_tpx] at valid
      dsimp only
      rw [Share.le_iff, SharePool.remaining_of_empty empty]
      revert share
      decide

theorem SlicedDevice.InTurn.memoryFree_of_empty {device : SlicedDevice} (inTurn : device.InTurn)
    (empty : device.workloads = []) :
    monus device.memoryTotalMib device.memoryUsedMib = device.memoryTotalMib := by
  have none : device.memoryUsedMib.toNat = 0 := by
    rw [inTurn.memory_exact, empty]
    rfl
  apply UInt64.toNat_inj.mp
  rw [toNat_monus, none, Nat.sub_zero]

end Empty

section Draining

open LedgerKeeper

variable {κ δ : Type} [Booked δ] [LedgerKeeper κ δ]

/-- What was turned down on a device for the time being is granted, at any later time, once all
that lives on the device has been released in any order, exactly if the device is fit for it. -/
def WaitsOut {τ : Type}
    (allocate : κ → String → AllocationRequest → τ → Outcome GpuAllocation × κ)
    (fits : String → AllocationRequest → Prop) (keeper : κ) : Prop :=
  ∀ device request now failure, (allocate keeper device request now).1 = .error failure →
    failure.error.isTransient = true →
    ∀ ids : List String, ids.Perm (((ledger keeper).liveOn device).map (·.id)) →
      let drained := ids.foldl (fun left id => (release left id).2) keeper
      (ledger drained).liveOn device = [] ∧
        ∀ later, (∃ allocation, (allocate drained device request later).1 = .ok allocation) ↔
          fits device request

/-- It is enough to look at any choice of names of which none lives on the device. -/
theorem Ledger.Settled.waitsOut [LawfulBooked δ] [Prunable δ] {keeper : κ}
    (settled : (ledger keeper).Settled) {τ : Type}
    {allocate : κ → String → AllocationRequest → τ → Outcome GpuAllocation × κ}
    {fits : String → AllocationRequest → Prop}
    (grants : ∀ device request now failure,
      (allocate keeper device request now).1 = .error failure → failure.error.isTransient = true →
      ∀ keep, ((ledger keeper).prune keep).liveOn device = [] → ∀ later,
        (∃ allocation, (allocate (withLedger keeper ((ledger keeper).prune keep)) device request
          later).1 = .ok allocation) ↔ fits device request) :
    WaitsOut allocate fits keeper := by
  intro device request now failure refused transient ids all
  have empty : ((ledger keeper).prune (· ∉ ids)).liveOn device = [] := by
    rw [liveOn_prune]
    refine List.filter_eq_nil_iff.mpr fun live member => ?_
    simpa using all.mem_iff.mpr (List.mem_map_of_mem member)
  dsimp only
  rw [foldl_release_eq, settled.foldl_release_eq_prune, ledger_withLedger]
  exact ⟨empty, grants device request now failure refused transient _ empty⟩

end Draining

section Allocators

variable {device : String} {request : AllocationRequest} {failure : Failure} {keep : String → Bool}

namespace FractionalAllocator

variable {allocator : FractionalAllocator} {now : Timestamp}

/-- What is turned down for the time being is valid, and so are its name and its device. -/
theorem valid_of_transient (refused : (allocator.allocate device request now).1 = .error failure)
    (transient : failure.error.isTransient = true) :
    ∃ share pool, allocator.policy.vet request = .ok share ∧
      allocator.ledger.owners.get? request.id = none ∧
      allocator.ledger.devices.get? device = some pool := by
  have checked := Outcome.error_of_discarded
    ((allocator.grantsAsChecked device request now).error_of_refused refused)
  unfold check at checked
  obtain ⟨share, vetted, checked⟩ := (allocator.policy.lasting_vet request).passed checked transient
  obtain ⟨_, unused, checked⟩ := (Outcome.lasting_require rfl).passed checked transient
  obtain ⟨pool, known, _⟩ := (allocator.ledger.lasting_device device).passed checked transient
  exact ⟨share, pool, vetted, require_eq_ok.mp unused, Ledger.device_eq_ok.mp known⟩

theorem granted_drained_iff
    (refused : (allocator.allocate device request now).1 = .error failure)
    (transient : failure.error.isTransient = true)
    (empty : (allocator.ledger.prune keep).liveOn device = []) (later : Timestamp) :
    (∃ allocation, ({ allocator with ledger := allocator.ledger.prune keep }.allocate device request
        later).1 = .ok allocation) ↔
      ∃ usage, allocator.ledger.usage device = .ok usage ∧
        request.memoryMib ≤ usage.memoryTotalMib := by
  obtain ⟨share, pool, vetted, unused, known⟩ := valid_of_transient refused transient
  have left := Ledger.known_prune known keep
  rw [Ledger.liveOn_eq left] at empty
  rw [(grantsAsChecked _ device request later).isOk_iff, canAllocate_eq_ok,
    Ledger.exists_usage_iff known]
  constructor
  · rintro ⟨found, _, checked⟩
    obtain ⟨_, _, stored, fits⟩ := check_eq_ok.mp checked
    cases left.symm.trans stored
    have memory := (SharePool.check_eq_ok.mp fits).2
    rw [SharePool.memoryFree_of_empty empty] at memory
    exact memory
  · intro memory
    refine ⟨_, share, check_eq_ok.mpr ⟨vetted, Ledger.unused_prune unused _, left, ?_⟩⟩
    refine SharePool.check_eq_ok.mpr ⟨?_, ?_⟩
    · rw [Share.le_iff, SharePool.remaining_of_empty empty]
      exact AllocationPolicy.share_le_of_vet vetted
    · rw [SharePool.memoryFree_of_empty empty]
      exact memory

end FractionalAllocator

namespace PartitionAllocator

variable {allocator : PartitionAllocator} {now : Timestamp}

/-- The fraction is valid in the mode of the device as well. -/
theorem valid_of_transient (refused : (allocator.allocate device request now).1 = .error failure)
    (transient : failure.error.isTransient = true) :
    ∃ asked books share, allocator.policy.vet request = .ok asked ∧
      allocator.ledger.owners.get? request.id = none ∧
      allocator.ledger.devices.get? device = some books ∧
      books.config.computeMode.shareOf request.fraction = .ok share := by
  have checked := Outcome.error_of_discarded
    ((allocator.grantsAsChecked device request now).error_of_refused refused)
  unfold check at checked
  obtain ⟨asked, vetted, checked⟩ := (allocator.policy.lasting_vet request).passed checked transient
  obtain ⟨_, unused, checked⟩ := (Outcome.lasting_require rfl).passed checked transient
  obtain ⟨books, known, checked⟩ :=
    (allocator.ledger.lasting_device device).passed checked transient
  obtain ⟨share, valid, _⟩ := (ComputeMode.lasting_shareOf _ _).passed checked transient
  exact ⟨asked, books, share, vetted, require_eq_ok.mp unused, Ledger.device_eq_ok.mp known, valid⟩

theorem Sound.granted_drained_iff (sound : allocator.Sound)
    (refused : (allocator.allocate device request now).1 = .error failure)
    (transient : failure.error.isTransient = true)
    (empty : (allocator.ledger.prune keep).liveOn device = []) (later : Timestamp) :
    (∃ allocation, ({ allocator with ledger := allocator.ledger.prune keep }.allocate device request
        later).1 = .ok allocation) ↔
      ∃ usage, allocator.ledger.usage device = .ok usage ∧
        request.memoryMib ≤ usage.memoryTotalMib := by
  obtain ⟨asked, books, share, vetted, unused, known, valid⟩ := valid_of_transient refused transient
  have left := Ledger.known_prune known keep
  have accounted := (sound.accounted device books known).prune keep
  rw [Ledger.liveOn_eq left] at empty
  rw [(grantsAsChecked _ device request later).isOk_iff, canAllocate_eq_ok,
    Ledger.exists_usage_iff known]
  constructor
  · rintro ⟨found, _, checked⟩
    obtain ⟨_, _, stored, _, fits⟩ := check_eq_ok.mp checked
    cases left.symm.trans stored
    have memory := memory_of_check fits
    rw [SharePool.memoryFree_of_empty empty] at memory
    exact memory
  · intro memory
    refine ⟨_, share, check_eq_ok.mpr
      ⟨⟨asked, vetted⟩, Ledger.unused_prune unused _, left, valid, ?_⟩⟩
    refine PartitionedDevice.check_eq_ok.mpr ⟨?_, ?_⟩
    · exact accounted.hasRoom_of_empty empty (ComputeMode.mem_shares_of_shareOf valid)
    · rw [SharePool.memoryFree_of_empty empty]
      exact memory

end PartitionAllocator

namespace TimeSlicingScheduler

variable {scheduler : TimeSlicingScheduler} {clock : Clock}

theorem valid_of_transient (refused : (scheduler.allocate device request clock).1 = .error failure)
    (transient : failure.error.isTransient = true) :
    ∃ share, scheduler.policy.vet request = .ok share ∧
      scheduler.ledger.owners.get? request.id = none := by
  have checked := Outcome.error_of_discarded
    ((scheduler.grantsAsChecked device request clock).error_of_refused refused)
  unfold check at checked
  obtain ⟨share, vetted, checked⟩ := (scheduler.policy.lasting_vet request).passed checked transient
  obtain ⟨_, unused, _⟩ := (Outcome.lasting_require rfl).passed checked transient
  exact ⟨share, vetted, require_eq_ok.mp unused⟩

/-- A device that is not known is as one that has drained, with the default memory. -/
theorem Sound.memoryFree_drained (sound : scheduler.Sound)
    (empty : (scheduler.ledger.prune keep).liveOn device = []) (now : Instant) :
    let drained := { scheduler with ledger := scheduler.ledger.prune keep }.deviceOrNew device now
    monus drained.memoryTotalMib drained.memoryUsedMib =
      (scheduler.deviceOrNew device now).memoryTotalMib := by
  simp only [TimeSlicingScheduler.deviceOrNew, Ledger.get?_prune]
  cases known : scheduler.ledger.devices.get? device with
  | none =>
      have fresh := SlicedDevice.inTurn_empty scheduler.config.defaultMemoryMib now
      exact fresh.memoryFree_of_empty rfl
  | some sliced =>
      rw [Ledger.liveOn_eq (Ledger.known_prune known keep)] at empty
      exact ((sound.inTurn device sliced known).prune keep).memoryFree_of_empty empty

theorem Sound.granted_drained_iff (sound : scheduler.Sound)
    (refused : (scheduler.allocate device request clock).1 = .error failure)
    (transient : failure.error.isTransient = true)
    (empty : (scheduler.ledger.prune keep).liveOn device = []) (later : Clock) :
    (∃ allocation, ({ scheduler with ledger := scheduler.ledger.prune keep }.allocate device request
        later).1 = .ok allocation) ↔
      request.memoryMib ≤ (scheduler.deviceOrNew device ⟨0⟩).memoryTotalMib := by
  obtain ⟨share, vetted, unused⟩ := valid_of_transient refused transient
  have free := sound.memoryFree_drained empty ⟨0⟩
  rw [(grantsAsChecked _ device request later).isOk_iff, canAllocate_eq_ok, ← free]
  constructor
  · rintro ⟨_, checked⟩
    exact ((check_eq_ok ⟨0⟩).mp checked).2.2
  · intro memory
    exact ⟨share, (check_eq_ok ⟨0⟩).mpr ⟨vetted, Ledger.unused_prune unused keep, memory⟩⟩

end TimeSlicingScheduler

end Allocators

/-- In every state that an allocator of any kind reaches, a request that is turned down for the
time being is granted once its device has drained, exactly if it asks for no more memory than
the device has. A device that the scheduler does not know has the default memory. -/
theorem run_waits_out :
    (∀ policy operations,
      let allocator := ({ policy } : FractionalAllocator).run operations
      WaitsOut FractionalAllocator.allocate (fun device request => ∃ usage,
        allocator.ledger.usage device = .ok usage ∧ request.memoryMib ≤ usage.memoryTotalMib)
        allocator) ∧
    (∀ policy operations,
      let allocator := ({ policy } : PartitionAllocator).run operations
      WaitsOut PartitionAllocator.allocate (fun device request => ∃ usage,
        allocator.ledger.usage device = .ok usage ∧ request.memoryMib ≤ usage.memoryTotalMib)
        allocator) ∧
    ∀ config policy operations,
      let scheduler := ({ config, policy } : TimeSlicingScheduler).run operations
      WaitsOut TimeSlicingScheduler.allocate (fun device request =>
        request.memoryMib ≤ (scheduler.deviceOrNew device ⟨0⟩).memoryTotalMib) scheduler := by
  refine ⟨?_, ?_, ?_⟩
  · intro policy operations allocator
    have sound := (FractionalAllocator.sound_new policy).run operations
    apply sound.settled.waitsOut
    intro device request now failure refused transient keep empty later
    exact FractionalAllocator.granted_drained_iff refused transient empty later
  · intro policy operations allocator
    have sound := (PartitionAllocator.sound_new policy).run operations
    apply sound.settled.waitsOut
    intro device request now failure refused transient keep empty later
    exact sound.granted_drained_iff refused transient empty later
  · intro config policy operations scheduler
    have sound := (TimeSlicingScheduler.sound_new config policy).run operations
    apply sound.settled.waitsOut
    intro device request clock failure refused transient keep empty later
    exact sound.granted_drained_iff refused transient empty later

/-- A request for half of a device, and for so much of its memory. -/
def halfWith (id : String) (memoryMib : UInt64) : AllocationRequest :=
  { id, memoryMib
    workload := { pod := id, space := "default", container := "main" }
    fraction := 0.5
    isolation := .shared
    sharing := false }

/-- One workload is given half of a device and half of its memory. -/
def halfTaken : List FractionalAllocator.Operation :=
  [.register "card0" 8192, .allocate "card0" (halfWith "a" 4096) ⟨1700000000, 0⟩]

def memoryShort (reason : String) : Failure :=
  { error := .resourceExhausted "card0" reason }

/-- A second workload that asks for more memory than is left has to wait for the first one. -/
theorem waitsOut_halfTaken :
    let allocator := ({ policy := {} } : FractionalAllocator).run halfTaken
    let waiting := halfWith "b" 5000
    (allocator.allocate "card0" waiting ⟨1700000000, 0⟩).1 =
        .error (memoryShort "requested 5000 MiB, only 4096 MiB free") ∧
      ∃ allocation, ((allocator.release "a").2.allocate "card0" waiting ⟨1700000060, 0⟩).1 =
        .ok allocation := by
  intro allocator waiting
  have refused : (allocator.allocate "card0" waiting ⟨1700000000, 0⟩).1 =
      .error (memoryShort "requested 5000 MiB, only 4096 MiB free") := by
    decide +kernel
  have live : ["a"].Perm ((allocator.ledger.liveOn "card0").map (·.id)) := by decide +kernel
  have used : allocator.ledger.usage "card0" = .ok
      { device := "card0"
        shareUsed := ⟨500⟩
        memoryUsedMib := 4096
        memoryTotalMib := 8192
        allocations := 1 } := by
    decide +kernel
  have waitsOut := run_waits_out.1 {} halfTaken "card0" waiting _ _ refused rfl ["a"] live
  exact ⟨refused, (waitsOut.2 _).mpr ⟨_, used, by decide⟩⟩

/-- What asks for more memory than the device has at all is turned down with an error of the same
kind, and still is once the device has drained. -/
theorem not_waitsOut_oversized :
    ¬ WaitsOut FractionalAllocator.allocate (fun _ _ => True)
        (({ policy := {} } : FractionalAllocator).run halfTaken) := by
  intro waitsOut
  let allocator := ({ policy := {} } : FractionalAllocator).run halfTaken
  let oversized := halfWith "b" 9000
  have refused : (allocator.allocate "card0" oversized ⟨1700000000, 0⟩).1 =
      .error (memoryShort "requested 9000 MiB, only 4096 MiB free") := by
    decide +kernel
  have live : ["a"].Perm ((allocator.ledger.liveOn "card0").map (·.id)) := by decide +kernel
  have again :
      ((allocator.release "a").2.allocate "card0" oversized ⟨1700000060, 0⟩).1 =
        .error (memoryShort "requested 9000 MiB, only 8192 MiB free") := by
    decide +kernel
  have drained := waitsOut "card0" oversized _ _ refused rfl ["a"] live
  obtain ⟨allocation, granted⟩ := (drained.2 ⟨1700000060, 0⟩).mpr trivial
  cases again.symm.trans granted

end GpuSharing
