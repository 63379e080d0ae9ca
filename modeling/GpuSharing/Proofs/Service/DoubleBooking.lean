import GpuSharing.Proofs.Service.Run

/-!
# Devices that are booked twice

The registry decides by which allocators a device is served, and it may change its
mind while allocations are live. What was granted before then stays with an allocator
that no later request asks. This is the one way in which a device is given away both
in parts and as a whole. Shares and turns of an undivided device never meet.
-/

set_option autoImplicit false

namespace GpuSharing.AllocationService

/-- Allocations live on the device both in the partition allocator and in one that
serves undivided devices. -/
def DoubleBooked (service : AllocationService) (device : String) : Prop :=
  service.liveIn .partitionAware device ≠ [] ∧
    (service.liveIn .fractional device ≠ [] ∨ service.liveIn .timeSlicing device ≠ [])

/-- Allocations live on the device in an allocator to which its requests no longer go,
since the device has been divided or has lost its division in the registry. -/
def Stranded (service : AllocationService) (device : String) : Prop :=
  match service.registry.partition? device with
  | some _ => service.liveIn .fractional device ≠ [] ∨ service.liveIn .timeSlicing device ≠ []
  | none => service.liveIn .partitionAware device ≠ []

instance (service : AllocationService) (device : String) :
    Decidable (service.DoubleBooked device) :=
  inferInstanceAs (Decidable (_ ∧ _))

variable {service : AllocationService}

theorem stranded_of_vet {device : String} {request : AllocationRequest} {kind : AllocatorKind}
    (vetted : service.vet device request = .ok kind) :
    service.Stranded device ↔
      if kind = .partitionAware then
        service.liveIn .fractional device ≠ [] ∨ service.liveIn .timeSlicing device ≠ []
      else service.liveIn .partitionAware device ≠ [] := by
  have routed := partition?_of_route (vet_eq_ok.mp vetted).2.1
  unfold Stranded
  cases divided : service.registry.partition? device with
  | none =>
      rw [divided] at routed
      rw [if_neg fun same => by simpa using routed.mpr same]
  | some config =>
      rw [divided] at routed
      rw [if_pos (routed.mp rfl)]

/-- A grant on a device double-books it if the device is stranded, and only then if it
was not double-booked before. -/
theorem Adds.doubleBooked_iff {after : AllocationService} {kind : AllocatorKind}
    {allocation : GpuAllocation} (adds : service.Adds after kind allocation) :
    after.DoubleBooked allocation.device ↔
      service.DoubleBooked allocation.device ∨
        if kind = .partitionAware then
          service.liveIn .fractional allocation.device ≠ [] ∨
            service.liveIn .timeSlicing allocation.device ≠ []
        else service.liveIn .partitionAware allocation.device ≠ [] := by
  unfold DoubleBooked
  simp only [adds.liveIn_eq]
  cases kind with
  | fractional => simp +contextual
  | partitionAware => simp
  | timeSlicing => simp +contextual

theorem Adds.doubleBooked_of_ne {after : AllocationService} {kind : AllocatorKind}
    {allocation : GpuAllocation} (adds : service.Adds after kind allocation) {device : String}
    (other : device ≠ allocation.device) :
    after.DoubleBooked device ↔ service.DoubleBooked device := by
  unfold DoubleBooked
  simp only [adds.liveIn_eq, other, and_false, ↓reduceIte]

/-- Without a grant no allocator comes to hold something on a device. -/
theorem liveIn_eq_nil_of_ungranted (sound : service.Sound) {operation : Operation}
    (ungranted : service.granted? operation = none) {kind : AllocatorKind} {device : String}
    (empty : service.liveIn kind device = []) :
    (service.perform operation).liveIn kind device = [] := by
  have fewer := sublist_perform sound ungranted kind device
  rw [empty, List.map_nil, List.sublist_nil, List.map_eq_nil_iff] at fewer
  exact fewer

theorem doubleBooked_of_ungranted (sound : service.Sound) {operation : Operation}
    (ungranted : service.granted? operation = none) {device : String}
    (after : (service.perform operation).DoubleBooked device) : service.DoubleBooked device := by
  have lived (kind : AllocatorKind) (live : (service.perform operation).liveIn kind device ≠ []) :
      service.liveIn kind device ≠ [] :=
    mt (liveIn_eq_nil_of_ungranted sound ungranted) live
  exact ⟨lived _ after.1, after.2.imp (lived _) (lived _)⟩

/-- One operation double-books a device exactly by a grant on it while it is stranded. -/
theorem doubleBooked_perform (sound : service.Sound) (operation : Operation) {device : String}
    (single : ¬service.DoubleBooked device) :
    (service.perform operation).DoubleBooked device ↔
      service.Stranded device ∧ ∃ allocation, service.granted? operation = some allocation ∧
        allocation.device = device := by
  cases granted : service.granted? operation with
  | none =>
      constructor
      · exact fun after => absurd (doubleBooked_of_ungranted sound granted after) single
      · rintro ⟨_, _, impossible, _⟩
        cases impossible
  | some allocation =>
      obtain ⟨request, kind, vetted, _, adds⟩ := adds_perform sound granted
      by_cases here : device = allocation.device
      · subst here
        rw [adds.doubleBooked_iff, stranded_of_vet vetted]
        simp [single]
      · rw [adds.doubleBooked_of_ne here]
        simp [single, Ne.symm here]

theorem exists_of_doubleBooked_run (sound : service.Sound) {device : String}
    (single : ¬service.DoubleBooked device) {operations : List Operation}
    (booked : (service.run operations).DoubleBooked device) :
    ∃ before operation allocation, before ++ [operation] <+: operations ∧
      (service.run before).Stranded device ∧
      (service.run before).granted? operation = some allocation ∧
      allocation.device = device := by
  induction operations generalizing service with
  | nil => exact absurd booked single
  | cons operation rest ih =>
      -- Either this operation books the device twice, or a later one is the first to.
      by_cases now : (service.perform operation).DoubleBooked device
      · obtain ⟨stranded, allocation, granted, place⟩ :=
          (doubleBooked_perform sound operation single).mp now
        exact ⟨[], operation, allocation, ⟨rest, rfl⟩, stranded, granted, place⟩
      · obtain ⟨before, later, allocation, earlier, found⟩ :=
          ih (sound.perform operation) now booked
        exact ⟨operation :: before, later, allocation,
          (List.prefix_cons_inj operation).mpr earlier, found⟩

theorem not_doubleBooked_new (setup : ServiceSetup) (device : String) :
    ¬setup.service.DoubleBooked device := fun booked => booked.1 rfl

/-- Neither allocator of shares gives away more than a device. -/
theorem Sound.totalMillis_le (sound : service.Sound) (device : String) :
    totalMillis (service.liveIn .fractional device) ≤ 1000 ∧
      totalMillis (service.liveIn .partitionAware device) ≤ 1000 :=
  ⟨sound.fractional.within.liveOn (totalMillis · ≤ 1000) (Nat.zero_le _)
      (fun _ within => within.shares_fit) device,
    sound.partitioned.accounted.liveOn (totalMillis · ≤ 1000) (Nat.zero_le _)
      (fun _ accounted => accounted.totalMillis_le) device⟩

/-- A run double-books a device exactly if something is granted on it while it is
stranded. In every other state its shares are at most those of one device. -/
theorem doubleBooked_run_iff (setup : ServiceSetup) (operations : List Operation)
    (device : String) :
    ((∃ before, before <+: operations ∧ (setup.service.run before).DoubleBooked device) ↔
      ∃ before operation allocation, before ++ [operation] <+: operations ∧
        (setup.service.run before).Stranded device ∧
        (setup.service.run before).granted? operation = some allocation ∧
        allocation.device = device) ∧
    (¬(setup.service.run operations).DoubleBooked device →
      totalMillis ((setup.service.run operations).liveIn .fractional device) +
        totalMillis ((setup.service.run operations).liveIn .partitionAware device) ≤ 1000) := by
  refine ⟨⟨?_, ?_⟩, fun single => ?_⟩
  · rintro ⟨before, early, booked⟩
    obtain ⟨first, operation, allocation, earlier, found⟩ :=
      exists_of_doubleBooked_run (sound_new setup) (not_doubleBooked_new setup device) booked
    exact ⟨first, operation, allocation, earlier.trans early, found⟩
  · rintro ⟨before, operation, allocation, early, stranded, granted, rfl⟩
    refine ⟨before ++ [operation], early, ?_⟩
    rw [run_append]
    obtain ⟨request, kind, vetted, _, adds⟩ :=
      adds_perform ((sound_new setup).run before) granted
    exact adds.doubleBooked_iff.mpr (.inr ((stranded_of_vet vetted).mp stranded))
  · obtain ⟨shares, parts⟩ := ((sound_new setup).run operations).totalMillis_le device
    by_cases empty : (setup.service.run operations).liveIn .partitionAware device = []
    · simpa [empty, totalMillis] using shares
    · have none : (setup.service.run operations).liveIn .fractional device = [] :=
        Classical.byContradiction fun some => single ⟨empty, .inl some⟩
      simpa [none, totalMillis] using parts

/-- The whole of a device is given away by dies; then the device is found without its
division, and the whole of it is given away by shares. -/
def lostDivision : List Operation :=
  let clock : Clock := ⟨⟨1700000000, 0⟩, ⟨0⟩⟩
  let found (partition : Option PartitionConfig) : Discovery :=
    .ok
      { source := "scripted"
        devices := [{ device := "card0", model := "gpu", memoryTotalBytes := 8589934592, partition }] }
  let whole (id : String) (isolation : IsolationType) : AllocationRequest :=
    { id, isolation
      workload := { pod := id, space := "default", container := "main" }
      fraction := 1.0
      memoryMib := 8192
      sharing := false }
  [.refresh (found (some { computeMode := .cpx, memoryMode := .nps1 })) clock,
    .allocate "card0" (whole "a" .partition) clock,
    .refresh (found none) clock,
    .allocate "card0" (whole "b" .shared) clock]

theorem doubleBooked_lostDivision :
    (({} : ServiceSetup).service.run lostDivision).DoubleBooked "card0" ∧
      totalMillis ((({} : ServiceSetup).service.run lostDivision).liveIn .fractional "card0") +
        totalMillis
          ((({} : ServiceSetup).service.run lostDivision).liveIn .partitionAware "card0") =
        2000 := by
  decide +kernel

section Rivals

/-! An undivided device has two allocators. Which of them a request goes to is chosen for
each request anew, but neither grants anything while the other holds the device. -/

theorem requireSingleBooking_eq_ok {device : String} {kind : AllocatorKind} :
    service.requireSingleBooking device kind = .ok () ↔
      ∀ rival, rivalOf kind = some rival → service.liveIn rival device = [] := by
  unfold requireSingleBooking
  cases rivalOf kind with
  | none => simp
  | some rival =>
      simp only [countOf_eq_length, List.length_eq_zero_iff, Option.some.injEq, forall_eq']
      by_cases empty : service.liveIn rival device = []
      · simp [empty]
      · simp [empty]

/-- Not both allocators of undivided devices hold the device. -/
def Unrivalled (service : AllocationService) (device : String) : Prop :=
  service.liveIn .fractional device = [] ∨ service.liveIn .timeSlicing device = []

theorem Unrivalled.add {after : AllocationService} {device : String}
    (unrivalled : service.Unrivalled device) {request : AllocationRequest} {kind : AllocatorKind}
    {allocation : GpuAllocation}
    (vetted : service.vet allocation.device request = .ok kind)
    (adds : service.Adds after kind allocation) : after.Unrivalled device := by
  have single := requireSingleBooking_eq_ok.mp (vet_eq_ok.mp vetted).2.2.2.1
  unfold Unrivalled at unrivalled ⊢
  simp only [adds.liveIn_eq]
  by_cases here : device = allocation.device
  · subst here
    cases kind with
    | fractional => exact .inr (by simpa using single .timeSlicing rfl)
    | partitionAware => simpa using unrivalled
    | timeSlicing => exact .inl (by simpa using single .fractional rfl)
  · simpa [here] using unrivalled

theorem Unrivalled.perform (sound : service.Sound) {device : String}
    (unrivalled : service.Unrivalled device) (operation : Operation) :
    (service.perform operation).Unrivalled device := by
  cases granted : service.granted? operation with
  | none =>
      exact unrivalled.imp (liveIn_eq_nil_of_ungranted sound granted)
        (liveIn_eq_nil_of_ungranted sound granted)
  | some allocation =>
      obtain ⟨request, kind, vetted, _, adds⟩ := adds_perform sound granted
      exact unrivalled.add vetted adds

/-- However requests for shares and for turns are mixed, and whatever becomes of the
division of a device meanwhile, it never holds both. -/
theorem run_unrivalled (setup : ServiceSetup) (operations : List Operation) (device : String) :
    (setup.service.run operations).liveIn .fractional device = [] ∨
      (setup.service.run operations).liveIn .timeSlicing device = [] := by
  have kept : (setup.service.run operations).Sound ∧
      (setup.service.run operations).Unrivalled device := by
    refine run_keeps (fun service => service.Sound ∧ service.Unrivalled device) ?_
      ⟨sound_new setup, .inl rfl⟩ operations
    intro service operation ⟨sound, unrivalled⟩
    exact ⟨sound.perform operation, unrivalled.perform sound operation⟩
  exact kept.2

end Rivals

end GpuSharing.AllocationService
