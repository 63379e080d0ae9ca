import GpuSharing.Proofs.Isolation.Sessions
import GpuSharing.Proofs.Service.Synced
import GpuSharing.Proofs.Withdrawal

/-!
# What a refused request leaves behind

A request can be turned down before anything is granted, or lose its grant because its
session does not start. Either way the node is as it was, up to the record of what the
isolation server was asked for, provided that the allocators know the devices.
-/

set_option autoImplicit false

namespace GpuSharing.AllocationService

section Undoing

variable {service : AllocationService}

theorem releaseFrom_allocateIn (sound : service.Sound) {kind : AllocatorKind} {device : String}
    {request : AllocationRequest} {clock : Clock} {allocation : GpuAllocation}
    (known : kind = .timeSlicing → service.scheduler.ledger.containsDevice device)
    (granted : (service.allocateIn kind device request clock).1 = .ok allocation) :
    ((service.allocateIn kind device request clock).2.releaseFrom kind allocation.id).2 =
      service := by
  cases kind with
  | fractional =>
      have restored := FractionalAllocator.release_allocate sound.fractional granted
      exact congrArg (fun fractional => { service with fractional }) restored
  | partitionAware =>
      have restored := PartitionAllocator.release_allocate sound.partitioned granted
      exact congrArg (fun partitioned => { service with partitioned }) restored
  | timeSlicing =>
      have restored := TimeSlicingScheduler.release_allocate sound.scheduler (known rfl) granted
      exact congrArg (fun scheduler => { service with scheduler }) restored

/-- What is kept beside the allocators does not matter to them. -/
theorem releaseFrom_aside (service : AllocationService) (kind : AllocatorKind) (id : String)
    (registry : DeviceRegistry) (owners : Keyed AllocatorKind)
    (isolation : Option IsolationSessions) :
    (({ service with registry, owners, isolation } : AllocationService).releaseFrom kind id).2 =
      { (service.releaseFrom kind id).2 with registry, owners, isolation } := by
  cases kind with
  | fractional => rfl
  | partitionAware => rfl
  | timeSlicing => rfl

/-- An undivided device that is served is known, where the service is synced. -/
theorem Synced.contains_of_vet (synced : service.Synced) {device : String}
    {request : AllocationRequest} (vetted : service.vet device request = .ok .timeSlicing) :
    service.scheduler.ledger.containsDevice device := by
  obtain ⟨known, stored⟩ := known_of_vet vetted
  have undivided : ¬(service.registry.partition? device).isSome := fun divided => by
    have routed := (partition?_of_route (vet_eq_ok.mp vetted).2.1).mp divided
    cases routed
  rw [DeviceRegistry.partition?, stored] at undivided
  exact (synced device known stored (by simpa using undivided)).2

/-- The name and the grant that go with it are taken back together. -/
theorem withdraw_grant (sound : service.Sound) (synced : service.Synced)
    {next : AllocationService} {kind : AllocatorKind} {device : String}
    {request : AllocationRequest} {clock : Clock} {allocation : GpuAllocation}
    (granted : service.grant device request clock = (.ok (kind, allocation), next))
    (unused : service.owners.get? allocation.id = none) (isolation : Option IsolationSessions) :
    ((({ next with isolation } : AllocationService).forget allocation.id kind).releaseFrom kind
      allocation.id).2 = { service with registry := next.registry, isolation } := by
  obtain ⟨booked, vetted, answered, rfl⟩ := grant_eq_ok granted
  have restored := releaseFrom_allocateIn sound
    (fun sliced => synced.contains_of_vet (sliced ▸ vetted)) (congrArg Prod.fst answered)
  obtain ⟨_, _, _, frame⟩ := service.allocateIn_frame kind device request clock
  rw [answered] at frame restored
  change booked = _ at frame
  have entered : booked.owners = service.owners := by rw [frame]
  have held : (booked.owners.insert allocation.id kind).get? allocation.id = some kind :=
    Keyed.get?_insert_self ..
  have forgotten : (booked.owners.insert allocation.id kind).erase allocation.id =
      service.owners := by
    rw [entered]
    exact Keyed.erase_insert unused kind
  unfold forget
  simp only [syncCount, held, if_true, forgotten]
  rw [releaseFrom_aside, restored]

theorem openSession_eq_error {next : AllocationService} {allocation : GpuAllocation}
    {failure : Failure} (refused : service.openSession allocation = (.error failure, next)) :
    next = { service with
      isolation := service.isolation.map (·.record .start allocation.device false) } := by
  unfold openSession sessionsFor at refused
  split at refused
  · cases refused
  · rename_i sessions found
    split at found
    · rcases sessions.acquire_cases allocation.device with
        ⟨_, _, acquired⟩ | ⟨_, ⟨_, acquired⟩ | ⟨_, _, failed⟩⟩
      · rw [acquired] at refused
        cases refused
      · rw [acquired] at refused
        cases refused
      · rw [failed] at refused
        cases refused
        rw [found]
        rfl
    · cases found

end Undoing

/-- The node after nothing but further calls to the isolation server. -/
def withCalls (service : AllocationService) (calls : List IsolationCall) : AllocationService :=
  { service with
    isolation := service.isolation.map fun sessions =>
      { sessions with calls := sessions.calls ++ calls } }

theorem withCalls_nil (service : AllocationService) : service.withCalls [] = service := by
  cases service
  simp [withCalls]

theorem allocate_eq_error {service : AllocationService} (sound : service.Sound)
    (counted : service.Counted) (assessed : service.registry.Assessed) (synced : service.Synced)
    {device : String} {request : AllocationRequest} {clock : Clock} {failure : Failure}
    (refused : (service.allocate device request clock).1 = .error failure) :
    ∃ calls, (service.allocate device request clock).2 = service.withCalls calls := by
  unfold allocate at refused ⊢
  rcases grant_cases sound device request clock with
    ⟨_, turnedDown⟩ | ⟨kind, allocation, next, granted, _, grants, entered, same⟩
  · rw [turnedDown]
    exact ⟨[], service.withCalls_nil.symm⟩
  · rw [granted] at refused ⊢
    dsimp only at refused ⊢
    rcases next.complete_cases kind allocation with
      ⟨_, _, completed⟩ | ⟨_, isolation, opened, undone⟩
    · rw [completed] at refused
      cases refused
    · have asked := congrArg AllocationService.isolation (openSession_eq_error opened)
      have place := grants.answers.device_eq
      obtain ⟨known, stored⟩ := known_of_vet grants.vetted
      -- The count of the device goes up by one and back, and with it what follows from the count.
      have recounted : ((next.registry.setActive device (service.count device)).2) =
          service.registry := by
        rw [entered, ← counted.exact device known stored List.not_mem_nil]
        exact assessed.setActive_setActive stored _
      rw [undone, withdraw_grant sound synced granted grants.unused isolation, place]
      refine ⟨[⟨.start, allocation.device, false⟩], ?_⟩
      change ({ service with
        registry := (next.registry.setActive device (service.count device)).2
        isolation } : AllocationService) = _
      rw [recounted]
      change isolation = _ at asked
      rw [asked, same]
      rfl

/-- Whatever a request is turned down for, nothing is left of it but what the isolation
server was asked for: every ledger, name, count and session is as it was. -/
theorem run_refused_untouched (setup : ServiceSetup) (operations : List Operation)
    (unset : ∀ device count, Operation.setActive device count ∉ operations)
    (synced : (setup.service.run operations).Synced) {device : String}
    {request : AllocationRequest} {clock : Clock} {failure : Failure}
    (refused : ((setup.service.run operations).allocate device request clock).1 =
      .error failure) :
    ∃ calls, ((setup.service.run operations).allocate device request clock).2 =
      (setup.service.run operations).withCalls calls :=
  allocate_eq_error ((sound_new setup).run operations)
    ((counted_new setup).run (owned_new setup) unset) (assessed_run setup operations) synced refused

/-- A node that time-slices its devices and cannot start any isolation session. -/
def unstartable : ServiceSetup :=
  { mode := .timeSliced
    backend := some
      { start := fun device => .error { error := .commandFailed "start" device }
        stop := fun _ => .ok ()
        health := fun _ => .ok true } }

/-- One workload has its turn and another one waits. -/
def takingTurns : List Operation :=
  [.refresh (reportOf ["card0"]) firstSecond,
    .allocate "card0" (halfFor "a" .shared) firstSecond,
    .allocate "card0" (halfFor "b" .shared) firstSecond, .rotate nextSecond.monotonic]

/-- What the caller learns of a session that could not be started. -/
def unstarted : Failure :=
  { error := .resourceExhausted "card0" "isolation session could not be started"
    causes := [(IsolationError.commandFailed "start" "card0").message] }

theorem refused_takingTurns :
    (∀ device count, Operation.setActive device count ∉ takingTurns) ∧
      (unstartable.service.run takingTurns).Synced ∧
      ((unstartable.service.run takingTurns).allocate "card0" (halfFor "c" .process) nextSecond).1 =
        .error unstarted ∧
      ∃ calls, ((unstartable.service.run takingTurns).allocate "card0" (halfFor "c" .process)
        nextSecond).2 = (unstartable.service.run takingTurns).withCalls calls := by
  have unset (device : String) (count : Nat) : Operation.setActive device count ∉ takingTurns := by
    simp [takingTurns]
  have synced : (unstartable.service.run takingTurns).Synced :=
    (synced_new unstartable).run (assessed_run unstartable []) (by simp [takingTurns])
      (by simp [takingTurns])
  have refused : ((unstartable.service.run takingTurns).allocate "card0" (halfFor "c" .process)
      nextSecond).1 = .error unstarted := by
    decide +kernel
  exact ⟨unset, synced, refused, run_refused_untouched unstartable takingTurns unset synced refused⟩

end GpuSharing.AllocationService
