import GpuSharing.Proofs.Admission
import GpuSharing.Proofs.Selection.Choice

/-!
# Selection in an allocator

An allocator selects among those of its devices that pass the check for a request, which are
those on which it would be granted. So a device is found if and only if there is one, and the
request is granted on the one that is found.
-/

set_option autoImplicit false

namespace GpuSharing

namespace Ledger

variable {δ : Type} [Booked δ] {ledger : Ledger δ}

theorem usage_eq_ok {device : String} {usage : DeviceUsage} : ledger.usage device = .ok usage ↔
    ∃ books, ledger.devices.get? device = some books ∧ Booked.usage books device = usage := by
  unfold Ledger.usage Ledger.device
  cases ledger.devices.get? device with
  | none => simp [refuse, Except.map]
  | some books => simp [Except.map]

/-- What is used of a device that would grant a request. -/
def Offers (ledger : Ledger δ) (grants : String → Prop) (usage : DeviceUsage) : Prop :=
  ledger.usage usage.device = .ok usage ∧ grants usage.device

/-- The devices that pass a check, as they are used. -/
theorem mem_passing (named : ∀ (books : δ) device, (Booked.usage books device).device = device)
    (passes : String → Bool) {usage : DeviceUsage} :
    usage ∈ (ledger.devices.entries.filter fun entry => passes entry.1).map
        (fun entry => Booked.usage entry.2 entry.1) ↔
      ledger.Offers (passes ·) usage := by
  simp only [List.mem_map, List.mem_filter, Offers, usage_eq_ok]
  constructor
  · rintro ⟨⟨device, books⟩, ⟨stored, passed⟩, rfl⟩
    rw [named]
    exact ⟨⟨books, Keyed.mem_entries.mp stored, rfl⟩, passed⟩
  · rintro ⟨⟨books, known, used⟩, passed⟩
    exact ⟨(usage.device, books), ⟨Keyed.mem_entries.mpr known, passed⟩, used⟩

end Ledger

/-- A selection finds a device that would grant the request, the one that the strategy chooses
among all of these, and is exhausted if no known device would. -/
structure Selects {δ : Type} [Booked δ] (ledger : Ledger δ) (last : Option String)
    (strategy : SelectionStrategy) (grants : String → Prop) (result : Outcome String) : Prop where
  granted : ∀ device, result = .ok device → grants device
  chosen : ∀ device, result = .ok device → ∃ usage, usage.device = device ∧
    strategy.Chooses last (ledger.Offers grants) usage
  found_iff : (∃ device, result = .ok device) ↔ ∃ device ∈ ledger.deviceIds, grants device
  exhausted_iff : (∃ device reason, result = refuse (.resourceExhausted device reason)) ↔
    ∀ device ∈ ledger.deviceIds, ¬grants device

namespace Selector

variable {δ : Type} [Booked δ] {ledger : Ledger δ} {strategy : SelectionStrategy}
  {grants : String → Prop} {candidates : List DeviceUsage}

theorem selects_choose (selector : Selector) (reason : String)
    (named : ∀ (books : δ) device, (Booked.usage books device).device = device)
    (offered : ∀ usage, usage ∈ candidates ↔ ledger.Offers grants usage) :
    Selects ledger selector.lastPick strategy grants
      (selector.choose strategy candidates (.resourceExhausted "*" reason)).1 := by
  have choice {device : String}
      (found : (selector.choose strategy candidates (.resourceExhausted "*" reason)).1 =
        .ok device) :
      ∃ usage, usage.device = device ∧
        strategy.Chooses selector.lastPick (ledger.Offers grants) usage := by
    obtain ⟨usage, picked, same⟩ := choose_eq_ok.mp found
    exact ⟨usage, same, (chooses_of_pick picked).congr fun usage => (offered usage).symm⟩
  have listed_iff : candidates ≠ [] ↔ ∃ device ∈ ledger.deviceIds, grants device := by
    constructor
    · intro listed
      obtain ⟨usage, member⟩ := List.exists_mem_of_ne_nil _ listed
      obtain ⟨used, granted⟩ := (offered usage).mp member
      obtain ⟨books, known, _⟩ := Ledger.usage_eq_ok.mp used
      exact ⟨usage.device, Keyed.mem_keys.mpr ⟨books, known⟩, granted⟩
    · rintro ⟨device, member, granted⟩
      obtain ⟨books, known⟩ := Keyed.mem_keys.mp member
      refine List.ne_nil_of_mem (a := Booked.usage books device) ((offered _).mpr ?_)
      rw [Ledger.Offers, named]
      exact ⟨Ledger.usage_eq_ok.mpr ⟨books, known, rfl⟩, granted⟩
  refine ⟨?_, fun _ => choice, exists_choose_eq_ok.trans listed_iff, ?_⟩
  · intro device found
    obtain ⟨usage, rfl, chosen⟩ := choice found
    exact chosen.offered.2
  · have empty_iff := not_congr listed_iff
    simp only [Decidable.not_not, not_exists, not_and] at empty_iff
    refine Iff.trans ?_ empty_iff
    simp only [refuse, choose_eq_error]
    constructor
    · rintro ⟨_, _, empty, _⟩
      exact empty
    · intro empty
      exact ⟨"*", reason, empty, rfl⟩

end Selector

/-- Whatever the state of an allocator, it selects among the devices on which it would grant the
request, and the order in which it lists them does not matter. -/
theorem selects_capable (strategy : SelectionStrategy) (request : AllocationRequest)
    (now : Timestamp) :
    (∀ allocator : FractionalAllocator,
      Selects allocator.ledger allocator.selector.lastPick strategy
        (fun device => ∃ allocation, (allocator.allocate device request now).1 = .ok allocation)
        (allocator.select strategy request).1 ∧
      ∀ listed, listed.Perm (allocator.candidates request) →
        (allocator.selector.choose strategy listed (noDeviceFor "no device" request)).1 =
          (allocator.select strategy request).1) ∧
    ∀ allocator : PartitionAllocator,
      Selects allocator.ledger allocator.selector.lastPick strategy
        (fun device => ∃ allocation, (allocator.allocate device request now).1 = .ok allocation)
        (allocator.select strategy request).1 ∧
      ∀ listed, listed.Perm (allocator.candidates request) →
        (allocator.selector.choose strategy listed (noDeviceFor "no device" request)).1 =
          (allocator.select strategy request).1 := by
  refine ⟨fun allocator => ⟨?_, fun listed same => congrArg Prod.fst (Selector.choose_perm same)⟩,
    fun allocator => ⟨?_, fun listed same => congrArg Prod.fst (Selector.choose_perm same)⟩⟩
  · refine allocator.selector.selects_choose _ (fun _ _ => rfl) fun usage => ?_
    refine (Ledger.mem_passing (fun _ _ => rfl)
      fun device => (allocator.canAllocate device request).isOk).trans (and_congr_right fun _ => ?_)
    exact Outcome.isOk_iff.trans (allocator.grantsAsChecked usage.device request now).isOk_iff.symm
  · refine allocator.selector.selects_choose _ (fun _ _ => rfl) fun usage => ?_
    refine (Ledger.mem_passing (fun _ _ => rfl)
      fun device => (allocator.canAllocate device request).isOk).trans (and_congr_right fun _ => ?_)
    exact Outcome.isOk_iff.trans (allocator.grantsAsChecked usage.device request now).isOk_iff.symm

end GpuSharing
