import GpuSharing.Proofs.Admission
import GpuSharing.Proofs.Isolation.Sessions
import GpuSharing.Proofs.Service.Synced

/-!
# Whether a request would be granted

A check and a grant look at the same node, but not through the same numbers: one goes by what
the registry says of the device, the other also counts what lives on it, and they look a name
up in different indexes. Where isolation sessions are not needed, or start whenever they are,
they part over names alone.
-/

set_option autoImplicit false

namespace GpuSharing

namespace AllocationService

variable {service : AllocationService} {device : String} {request : AllocationRequest}

theorem allocateIn_isOk_iff {kind : AllocatorKind} {clock : Clock} :
    (∃ allocation, (service.allocateIn kind device request clock).1 = .ok allocation) ↔
      service.checkIn kind device request = .ok () := by
  cases kind with
  | fractional => exact (service.fractional.grantsAsChecked device request clock.wall).isOk_iff
  | partitionAware => exact (service.partitioned.grantsAsChecked device request clock.wall).isOk_iff
  | timeSlicing => exact (service.scheduler.grantsAsChecked device request clock).isOk_iff

/-- An allocator passes no name that it holds itself. -/
theorem unplaced_of_checkIn {kind : AllocatorKind}
    (passed : service.checkIn kind device request = .ok ()) :
    service.placeIn kind request.id = none := by
  cases kind with
  | fractional =>
      obtain ⟨_, checked, _⟩ := Outcome.bind_eq_ok.mp passed
      exact (FractionalAllocator.check_eq_ok.mp checked).2.1
  | partitionAware =>
      obtain ⟨_, checked, _⟩ := Outcome.bind_eq_ok.mp passed
      exact (PartitionAllocator.check_eq_ok.mp checked).2.1
  | timeSlicing =>
      obtain ⟨_, checked, _⟩ := Outcome.bind_eq_ok.mp passed
      exact ((TimeSlicingScheduler.check_eq_ok ⟨0⟩).mp checked).2.1

theorem requireAvailable_eq_ok : service.requireAvailable device = .ok () ↔
    ∃ known, service.registry.devices.get? device = some known ∧ known.isAvailable := by
  unfold requireAvailable
  rw [Outcome.bind_eq_ok]
  refine exists_congr fun known => and_congr DeviceRegistry.get_eq_ok ?_
  cases known.isAvailable with
  | true => simp [Outcome.pure_eq_ok]
  | false => simp

theorem canAllocate_eq_ok : service.canAllocate device request = .ok () ↔
    service.requireAvailable device = .ok () ∧ ∃ kind,
      service.route device request = .ok kind ∧
        service.requireSingleBooking device kind = .ok () ∧
        service.checkIn kind device request = .ok () := by
  unfold canAllocate
  simp only [Outcome.bind_eq_ok]
  constructor
  · rintro ⟨_, available, kind, routed, _, single, checked⟩
    exact ⟨available, kind, routed, single, checked⟩
  · rintro ⟨available, kind, routed, single, checked⟩
    exact ⟨(), available, kind, routed, (), single, checked⟩

/-- An available device is below the ceiling: the registry's count, by which it is available,
is the one that the ceiling is held against. -/
theorem requireBelowCeiling_of_available (counted : service.Counted)
    (assessed : service.registry.Assessed) (available : service.requireAvailable device = .ok ()) :
    service.requireBelowCeiling device = .ok () := by
  obtain ⟨known, stored, free⟩ := requireAvailable_eq_ok.mp available
  rw [(assessed device known stored).2, Device.canServe] at free
  simp only [Bool.and_eq_true, decide_eq_true_eq] at free
  rw [requireBelowCeiling, require_eq_ok, ← counted.exact device known stored List.not_mem_nil]
  exact free.2

/-- The isolation server, if the node has one, starts every session that it is asked for. -/
def SessionsStart (service : AllocationService) : Prop :=
  ∀ sessions, service.isolation = some sessions → ∀ device, sessions.backend.start device = .ok ()

theorem sessionsStart_of_unserved (unserved : service.isolation = none) : service.SessionsStart := by
  intro sessions present
  rw [unserved] at present
  cases present

theorem openSession_of_sessionsStart (starts : service.SessionsStart) (allocation : GpuAllocation) :
    (service.openSession allocation).1 = .ok () := by
  unfold openSession sessionsFor
  split
  · rfl
  · rename_i sessions needed
    split at needed
    · rcases sessions.acquire_cases allocation.device with
        ⟨_, _, held⟩ | ⟨_, ⟨_, started⟩ | ⟨failure, fails, _⟩⟩
      · rw [held]
      · rw [started]
      · rw [starts sessions needed] at fails
        cases fails
    · cases needed

theorem complete_of_sessionsStart (starts : service.SessionsStart) (kind : AllocatorKind)
    (allocation : GpuAllocation) : (service.complete kind allocation).1 = .ok allocation := by
  have opened := openSession_of_sessionsStart starts allocation
  rcases service.complete_cases kind allocation with
    ⟨_, _, completed⟩ | ⟨failure, _, refused, _⟩
  · rw [completed]
  · rw [refused] at opened
    cases opened

theorem allocate_isOk_iff_of_sessionsStart (sound : service.Sound) (counted : service.Counted)
    (assessed : service.registry.Assessed) (starts : service.SessionsStart) {clock : Clock} :
    (∃ allocation, (service.allocate device request clock).1 = .ok allocation) ↔
      service.canAllocate device request = .ok () ∧ service.owners.get? request.id = none := by
  unfold allocate
  rcases grant_cases sound device request clock with
    ⟨failure, refused⟩ | ⟨kind, allocation, next, granted, _, _, _, same⟩
  · rw [refused]
    refine iff_of_false (fun ⟨_, granted⟩ => by cases granted) fun ⟨passed, unused⟩ => ?_
    obtain ⟨available, kind, routed, single, checked⟩ := canAllocate_eq_ok.mp passed
    have vetted : service.vet device request = .ok kind :=
      vet_eq_ok.mpr ⟨available, routed, unused, single,
        requireBelowCeiling_of_available counted assessed available⟩
    obtain ⟨allocation, booked⟩ := allocateIn_isOk_iff.mpr checked
    unfold grant at refused
    rw [vetted] at refused
    dsimp only at refused
    cases answered : service.allocateIn kind device request clock with
    | mk outcome next =>
        rw [answered] at booked refused
        cases booked
        cases refused
  · rw [granted]
    dsimp only
    have nextStarts : next.SessionsStart := fun sessions present =>
      starts sessions (same.symm.trans present)
    refine iff_of_true ⟨allocation, complete_of_sessionsStart nextStarts kind allocation⟩ ?_
    obtain ⟨booked, vetted, answered, _⟩ := grant_eq_ok granted
    obtain ⟨available, routed, unused, single, _⟩ := vet_eq_ok.mp vetted
    have checked := allocateIn_isOk_iff.mp ⟨allocation, congrArg Prod.fst answered⟩
    exact ⟨canAllocate_eq_ok.mpr ⟨available, kind, routed, single, checked⟩, unused⟩

theorem allocate_isOk_iff (sound : service.Sound) (counted : service.Counted)
    (assessed : service.registry.Assessed) (unserved : service.isolation = none) {clock : Clock} :
    (∃ allocation, (service.allocate device request clock).1 = .ok allocation) ↔
      service.canAllocate device request = .ok () ∧ service.owners.get? request.id = none :=
  allocate_isOk_iff_of_sessionsStart sound counted assessed (sessionsStart_of_unserved unserved)

/-- What passes the check under a name that is in use is turned down for its name. -/
theorem allocate_of_used (passed : service.canAllocate device request = .ok ())
    {holder : AllocatorKind} (used : service.owners.get? request.id = some holder)
    {clock : Clock} :
    service.allocate device request clock =
      (refuse (.validation s!"allocation id {request.id} is already in use"), service) := by
  obtain ⟨available, kind, routed, _, _⟩ := canAllocate_eq_ok.mp passed
  unfold allocate grant vet
  rw [available, routed, used]
  rfl

/-- Without isolation sessions, a request is granted exactly if it passes the check and nothing
lives under its name. What passes the check under a name that is live is turned down, and that
name lives in another allocator than the one that the request is for. -/
theorem run_grants_iff (setup : ServiceSetup) (operations : List Operation)
    (unset : ∀ device count, Operation.setActive device count ∉ operations)
    (unserved : (setup.service.run operations).isolation = none) (device : String)
    (request : AllocationRequest) (clock : Clock) :
    let service := setup.service.run operations
    ((∃ allocation, (service.allocate device request clock).1 = .ok allocation) ↔
      service.canAllocate device request = .ok () ∧
        ∀ kind place, request.id ∉ service.namesIn kind place) ∧
    (service.canAllocate device request = .ok () →
      ∀ kind place, request.id ∈ service.namesIn kind place →
        service.route device request ≠ .ok kind ∧
          service.allocate device request clock =
            (refuse (.validation s!"allocation id {request.id} is already in use"), service)) := by
  intro service
  have owned : service.Owned := (owned_new setup).run operations
  have counted : service.Counted := (counted_new setup).run (owned_new setup) unset
  constructor
  · rw [allocate_isOk_iff owned.sound counted (assessed_run setup operations) unserved]
    refine and_congr_right fun _ => ?_
    rw [Option.eq_none_iff_forall_ne_some]
    refine forall_congr' fun kind => ?_
    rw [Ne, owned.owned, not_exists]
  · intro passed kind place live
    refine ⟨fun routed => ?_, allocate_of_used passed ((owned.owned request.id kind).mpr ⟨place, live⟩)⟩
    obtain ⟨_, served, same, _, checked⟩ := canAllocate_eq_ok.mp passed
    rw [routed, Except.ok.injEq] at same
    subst same
    have unplaced := unplaced_of_checkIn checked
    rw [(owned.indexed.placed request.id kind place).mpr live] at unplaced
    cases unplaced

/-- Of two devices that are found, half of the first one is given away. -/
def halfTaken : List Operation :=
  [.refresh (reportOf ["card0", "card1"]) firstSecond,
    .allocate "card0" (halfFor "a" .shared) firstSecond]

/-- Where the devices are found in their natural order, they are entered in it. -/
theorem refresh_of_ordered (report : DiscoveryReport) (clock : Clock)
    (ordered : (service.registry.refreshAll (.ok report) clock.wall).2.devices.values.Pairwise
      fun first second => (NaturalKey.ofName first.descriptor.device).le
        (.ofName second.descriptor.device)) :
    (service.refresh (.ok report) clock).2 =
      (({ service with
        registry := (service.registry.refreshAll (.ok report) clock.wall).2 } :
          AllocationService).syncEach clock.monotonic
            (service.registry.refreshAll (.ok report) clock.wall).2.devices.values).2 := by
  have listed : (service.registry.refreshAll (.ok report) clock.wall).2.list = _ :=
    List.mergeSort_of_pairwise ordered
  rw [← listed]
  rfl

theorem run_halfTaken : ({} : ServiceSetup).service.run halfTaken =
    ((({ ({} : ServiceSetup).service with
      registry := (({} : ServiceSetup).service.registry.refreshAll (reportOf ["card0", "card1"])
        firstSecond.wall).2 } : AllocationService).syncEach firstSecond.monotonic
          (({} : ServiceSetup).service.registry.refreshAll (reportOf ["card0", "card1"])
            firstSecond.wall).2.devices.values).2.allocate "card0" (halfFor "a" .shared)
              firstSecond).2 := by
  refine congrArg (fun service : AllocationService =>
    (service.allocate "card0" (halfFor "a" .shared) firstSecond).2) (refresh_of_ordered _ _ ?_)
  decide +kernel

/-- The name is in use by the fractional allocator, and the scheduler is asked. -/
theorem canAllocate_halfTaken :
    (({} : ServiceSetup).service.run halfTaken).Synced ∧
      ((({} : ServiceSetup).service.run halfTaken).canAllocate "card1" (halfFor "a" .timeSlice)) =
          .ok () ∧
      ((({} : ServiceSetup).service.run halfTaken).allocate "card1" (halfFor "a" .timeSlice)
        firstSecond).1 = refuse (.validation "allocation id a is already in use") := by
  refine ⟨?_, ?_⟩
  · exact (synced_new {}).run (assessed_run {} []) (by simp [halfTaken]) (by simp [halfTaken])
  · rw [run_halfTaken]
    decide +kernel

theorem refused_halfTaken :
    (∀ device count, Operation.setActive device count ∉ halfTaken) ∧
      (({} : ServiceSetup).service.run halfTaken).isolation = none ∧
      ¬∃ allocation, ((({} : ServiceSetup).service.run halfTaken).allocate "card1"
        (halfFor "a" .timeSlice) firstSecond).1 = .ok allocation := by
  have unset (device : String) (count : Nat) : Operation.setActive device count ∉ halfTaken := by
    simp [halfTaken]
  have unserved : (({} : ServiceSetup).service.run halfTaken).isolation = none := by
    have none : (({} : ServiceSetup).service.run halfTaken).isolation.isNone := by
      rw [run_halfTaken]
      decide +kernel
    exact Option.isNone_iff_eq_none.mp none
  have live : "a" ∈ (({} : ServiceSetup).service.run halfTaken).namesIn .fractional "card0" := by
    rw [run_halfTaken]
    decide +kernel
  refine ⟨unset, unserved, fun granted => ?_⟩
  exact ((run_grants_iff {} halfTaken unset unserved "card1" (halfFor "a" .timeSlice)
    firstSecond).1.mp granted).2 .fractional "card0" live

end AllocationService

end GpuSharing
