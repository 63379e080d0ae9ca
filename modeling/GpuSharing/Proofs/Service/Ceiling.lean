import GpuSharing.Proofs.Service.Stable

/-!
# The ceiling of a device

A device takes only so many allocations. The number by which the registry holds a device
available may be wrong, so a grant counts for itself what lives on the device, in whichever
allocators that is.
-/

set_option autoImplicit false

namespace GpuSharing.AllocationService

variable {service : AllocationService}

theorem requireBelowCeiling_eq_ok {device : String} :
    service.requireBelowCeiling device = .ok () ↔
      (service.list device).length < service.registry.config.maxAllocations := by
  rw [requireBelowCeiling, require_eq_ok, count_eq_length]

/-- So many allocations may live on a device, and on none there are more. -/
structure Within (service : AllocationService) (ceiling : Nat) : Prop where
  limit : service.registry.config.maxAllocations = ceiling
  fits : ∀ device, (service.list device).length ≤ ceiling

theorem within_new (setup : ServiceSetup) :
    setup.service.Within setup.registry.maxAllocations :=
  ⟨rfl, fun _ => Nat.zero_le _⟩

/-- Whoever adds an allocation has found room for it. -/
theorem Within.length_of_adds {ceiling : Nat} (within : service.Within ceiling)
    {after : AllocationService} {request : AllocationRequest} {kind : AllocatorKind}
    {allocation : GpuAllocation} (vetted : service.vet allocation.device request = .ok kind)
    (adds : service.Adds after kind allocation) (device : String) :
    (after.list device).length ≤ ceiling := by
  have room := requireBelowCeiling_eq_ok.mp (vet_eq_ok.mp vetted).2.2.2.2
  rw [within.limit] at room
  rw [(adds.perm_list device).length_eq]
  by_cases here : device = allocation.device
  · rw [if_pos here, here]
    exact room
  · rw [if_neg here]
    exact within.fits device

theorem length_list_of_ungranted (sound : service.Sound) {operation : Operation}
    (ungranted : service.granted? operation = none) (device : String) :
    ((service.perform operation).list device).length ≤ (service.list device).length := by
  have fewer (kind : AllocatorKind) :
      ((service.perform operation).liveIn kind device).length ≤
        (service.liveIn kind device).length := by
    simpa using (sublist_perform sound ungranted kind device).length_le
  simp only [list_eq, List.length_append]
  exact Nat.add_le_add (fewer .fractional)
    (Nat.add_le_add (fewer .partitionAware) (fewer .timeSlicing))

theorem Within.perform (sound : service.Sound) {ceiling : Nat} (within : service.Within ceiling)
    (operation : Operation) : (service.perform operation).Within ceiling := by
  refine ⟨?_, fun device => ?_⟩
  · rw [service.config_perform operation, within.limit]
  · cases granted : service.granted? operation with
    | none =>
        exact Nat.le_trans (length_list_of_ungranted sound granted device) (within.fits device)
    | some allocation =>
        obtain ⟨request, kind, vetted, _, adds⟩ := adds_perform sound granted
        exact within.length_of_adds vetted adds device

theorem Within.run (sound : service.Sound) {ceiling : Nat} (within : service.Within ceiling)
    (operations : List Operation) : (service.run operations).Within ceiling :=
  And.right <| run_keeps (fun service => service.Sound ∧ service.Within ceiling)
    (fun _ operation kept => ⟨kept.1.perform operation, kept.2.perform kept.1 operation⟩)
    ⟨sound, within⟩ operations

/-- A grant whose session is still to be opened counts as well. -/
theorem Within.grant (sound : service.Sound) {ceiling : Nat} (within : service.Within ceiling)
    (place : String) (request : AllocationRequest) (clock : Clock) (device : String) :
    ((service.grant place request clock).2.list device).length ≤ ceiling := by
  rcases grant_cases sound place request clock with
    ⟨failure, refused⟩ | ⟨kind, allocation, next, granted, _, grants, _, _⟩
  · rw [refused]
    exact within.fits device
  · rw [granted]
    have vetted : service.vet allocation.device request = .ok kind :=
      grants.answers.device_eq ▸ grants.vetted
    exact within.length_of_adds vetted grants.adds device

/-- What lives on a device in all three allocators never exceeds the ceiling, even while a
grant waits for its session. Room is found by that number alone, so a registry with wrong
counts, and a device whose allocations are spread by a change of its division, make no
difference. -/
theorem run_within_ceiling (setup : ServiceSetup) (operations : List Operation)
    (device : String) :
    let service := setup.service.run operations
    let ceiling := setup.registry.maxAllocations
    (service.liveIn .fractional device).length + (service.liveIn .partitionAware device).length +
        (service.liveIn .timeSlicing device).length ≤ ceiling ∧
      (∀ place request clock,
        ((service.grant place request clock).2.list device).length ≤ ceiling) ∧
      (service.requireBelowCeiling device = .ok () ↔ (service.list device).length < ceiling) := by
  intro service ceiling
  have sound : service.Sound := (sound_new setup).run operations
  have within : service.Within ceiling := (within_new setup).run (sound_new setup) operations
  refine ⟨?_, fun place request clock => within.grant sound place request clock device, ?_⟩
  · have held := within.fits device
    rw [list_eq, List.length_append, List.length_append, ← Nat.add_assoc] at held
    exact held
  · rw [requireBelowCeiling_eq_ok, within.limit]

end GpuSharing.AllocationService
