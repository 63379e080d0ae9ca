import GpuSharing.Proofs.Service.Books
import GpuSharing.Service.Booking
import GpuSharing.Service.Loops

/-!
# Runs of a service

The ways in which a service is used, one after another, and what each of them does to
the allocations that live in its allocators: a granted request adds one, and nothing
else brings one to life.
-/

set_option autoImplicit false

namespace GpuSharing

structure ServiceSetup where
  mode : UnpartitionedMode := .fractional
  registry : RegistryConfig := {}
  policy : AllocationPolicy := {}
  scheduler : SchedulerConfig := {}
  reservations : ReservationConfig := {}
  backend : Option IsolationBackend := none

/-- A service that knows no devices and holds no allocations. -/
def ServiceSetup.service (setup : ServiceSetup) : AllocationService :=
  { mode := setup.mode
    registry := { config := setup.registry }
    fractional := { policy := setup.policy }
    partitioned := { policy := setup.policy }
    scheduler := { policy := setup.policy, config := setup.scheduler }
    reservations := { config := setup.reservations }
    isolation := setup.backend.map fun backend => { backend } }

namespace AllocationService

/-- The ways in which a service and its registry are used that concern allocations. -/
inductive Operation where
  | allocate (device : String) (request : AllocationRequest) (clock : Clock)
  | allocateAuto (strategy : SelectionStrategy) (request : AllocationRequest) (clock : Clock)
  | release (id : String)
  | cleanup (now : Timestamp)
  | rotate (now : Instant)
  | refresh (discovery : Discovery) (clock : Clock)
  | sync (now : Instant)
  | poll (discovery : Discovery) (now : Timestamp)
  | refreshDevice (described : Except DiscoveryError DeviceDescriptor) (now : Timestamp)
  | setActive (device : String) (count : Nat)
  | checkHealth
  /-- From now on the isolation server answers differently. -/
  | setBackend (backend : IsolationBackend)

def perform (service : AllocationService) : Operation → AllocationService
  | .allocate device request clock => (service.allocate device request clock).2
  | .allocateAuto strategy request clock => (service.allocateAuto strategy request clock).2
  | .release id => (service.release id).2
  | .cleanup now => (service.cleanup now).2
  | .rotate now => (service.rotate now).2
  | .refresh discovery clock => (service.refresh discovery clock).2
  | .sync now => (service.sync now).2
  | .poll discovery now => service.poll discovery now
  | .refreshDevice described now =>
      { service with registry := (service.registry.refreshDevice described now).2 }
  | .setActive device count =>
      { service with registry := (service.registry.setActive device count).2 }
  | .checkHealth => service.checkHealth.2
  | .setBackend backend =>
      { service with isolation := service.isolation.map fun sessions => { sessions with backend } }

def run (service : AllocationService) (operations : List Operation) : AllocationService :=
  operations.foldl perform service

/-- The allocation that an operation grants. -/
def granted? (service : AllocationService) : Operation → Option GpuAllocation
  | .allocate device request clock => (service.allocate device request clock).1.toOption
  | .allocateAuto strategy request clock =>
      (service.allocateAuto strategy request clock).1.toOption
  | _ => none

theorem run_append (service : AllocationService) (first second : List Operation) :
    service.run (first ++ second) = (service.run first).run second :=
  List.foldl_append

/-- What every operation keeps, a run keeps. -/
theorem run_keeps (holds : AllocationService → Prop)
    (step : ∀ service operation, holds service → holds (service.perform operation))
    {service : AllocationService} (held : holds service) (operations : List Operation) :
    holds (service.run operations) := by
  induction operations generalizing service with
  | nil => exact held
  | cons operation rest ih => exact ih (step service operation held)

section Sessions

/-! Sessions and counts are kept beside the allocators and the index of names. -/

theorem openSession_frame (service : AllocationService) (allocation : GpuAllocation) :
    ∃ isolation, (service.openSession allocation).2 = { service with isolation } := by
  unfold openSession
  cases service.sessionsFor allocation with
  | none => exact ⟨service.isolation, rfl⟩
  | some sessions =>
      cases acquired : sessions.acquire allocation.device with
      | mk outcome sessions =>
          refine ⟨some sessions, ?_⟩
          cases outcome with
          | error failure => simp only [acquired]
          | ok => simp only [acquired]

theorem closeSession_frame (service : AllocationService) (allocation : GpuAllocation) :
    ∃ isolation, service.closeSession allocation = { service with isolation } := by
  unfold closeSession
  cases service.sessionsFor allocation with
  | none => exact ⟨service.isolation, rfl⟩
  | some sessions => exact ⟨_, rfl⟩

theorem checkHealth_frame (service : AllocationService) :
    ∃ isolation, service.checkHealth.2 = { service with isolation } := by
  unfold checkHealth
  cases service.isolation with
  | none => exact ⟨service.isolation, rfl⟩
  | some sessions => exact ⟨_, rfl⟩

theorem allocators_checkHealth (service : AllocationService) :
    service.checkHealth.2.allocators = service.allocators := by
  obtain ⟨_, checked⟩ := service.checkHealth_frame
  rw [checked]
  rfl

theorem closeSessions_frame (service : AllocationService) (allocations : List GpuAllocation) :
    ∃ isolation, allocations.foldl closeSession service = { service with isolation } := by
  induction allocations generalizing service with
  | nil => exact ⟨service.isolation, rfl⟩
  | cons allocation rest ih =>
      obtain ⟨first, closed⟩ := service.closeSession_frame allocation
      obtain ⟨isolation, others⟩ := ih { service with isolation := first }
      exact ⟨isolation, by rw [List.foldl_cons, closed, others]⟩

theorem syncCounts_frame (service : AllocationService) (allocations : List GpuAllocation) :
    ∃ registry, allocations.foldl (fun service live => service.syncCount live.device) service =
      { service with registry } := by
  induction allocations generalizing service with
  | nil => exact ⟨service.registry, rfl⟩
  | cons allocation rest ih =>
      obtain ⟨registry, others⟩ := ih (service.syncCount allocation.device)
      exact ⟨registry, by rw [List.foldl_cons, others]; rfl⟩

end Sessions

section Allocate

variable {service : AllocationService}

theorem vet_eq_ok {device : String} {request : AllocationRequest} {kind : AllocatorKind} :
    service.vet device request = .ok kind ↔
      service.requireAvailable device = .ok () ∧ service.route device request = .ok kind ∧
        service.owners.get? request.id = none ∧
        service.requireSingleBooking device kind = .ok () ∧
        service.requireBelowCeiling device = .ok () := by
  unfold vet
  simp only [Outcome.bind_eq_ok, require_eq_ok, Outcome.pure_eq_ok]
  constructor
  · rintro ⟨_, available, _, routed, _, unused, _, single, _, below, rfl⟩
    exact ⟨available, routed, unused, single, below⟩
  · rintro ⟨available, routed, unused, single, below⟩
    exact ⟨(), available, kind, routed, (), unused, (), single, (), below, rfl⟩

/-- Divided devices, and no others, are served by the partition allocator. -/
theorem partition?_of_route {device : String} {request : AllocationRequest}
    {kind : AllocatorKind} (routed : service.route device request = .ok kind) :
    (service.registry.partition? device).isSome ↔ kind = .partitionAware := by
  unfold route DeviceRegistry.get at routed
  unfold DeviceRegistry.partition?
  cases known : service.registry.devices.get? device with
  | none =>
      rw [known] at routed
      cases routed
  | some found =>
      simp only [known, Outcome.bind_eq_ok, Except.ok.injEq, exists_eq_left'] at routed
      simp only [Option.bind_some]
      split at routed
      · rename_i divided
        cases routed
        simp [divided]
      · rename_i undivided
        split at routed
        · cases routed
          simpa using undivided
        · cases routed
          simpa using undivided

/-- A request was granted by the allocator that it was routed to, under a new name. -/
structure Grants (before after : AllocationService) (device : String)
    (request : AllocationRequest) (kind : AllocatorKind) (allocation : GpuAllocation) : Prop where
  vetted : before.vet device request = .ok kind
  answers : allocation.Answers device request
  adds : before.Adds after kind allocation
  owners_eq : after.owners = before.owners.insert allocation.id kind

theorem Adds.congr {before after other : AllocationService} {kind : AllocatorKind}
    {allocation : GpuAllocation} (adds : before.Adds after kind allocation)
    (same : other.allocators = after.allocators) : before.Adds other kind allocation :=
  ⟨adds.fresh, by rw [liveIn_congr same]; exact adds.liveIn_eq⟩

theorem Grants.congr {before after other : AllocationService} {device : String}
    {request : AllocationRequest} {kind : AllocatorKind} {allocation : GpuAllocation}
    (grants : before.Grants after device request kind allocation)
    (same : other.allocators = after.allocators) (owners : other.owners = after.owners) :
    before.Grants other device request kind allocation :=
  ⟨grants.vetted, grants.answers, grants.adds.congr same, owners.trans grants.owners_eq⟩

theorem Grants.unused {before after : AllocationService} {device : String}
    {request : AllocationRequest} {kind : AllocatorKind} {allocation : GpuAllocation}
    (grants : before.Grants after device request kind allocation) :
    before.owners.get? allocation.id = none := by
  rw [grants.answers.id_eq]
  exact (vet_eq_ok.mp grants.vetted).2.2.1

theorem grant_cases (sound : service.Sound) (device : String) (request : AllocationRequest)
    (clock : Clock) :
    (∃ failure, service.grant device request clock = (.error failure, service)) ∨
    ∃ kind allocation next, service.grant device request clock = (.ok (kind, allocation), next) ∧
      next.Sound ∧ service.Grants next device request kind allocation ∧
      next.registry = (service.registry.setActive device (next.count device)).2 ∧
      next.isolation = service.isolation := by
  unfold grant
  cases vetted : service.vet device request with
  | error failure => exact .inl ⟨failure, rfl⟩
  | ok kind =>
      obtain ⟨_, _, _, frame⟩ := service.allocateIn_frame kind device request clock
      rcases allocateIn_cases sound kind device request clock with
        ⟨failure, refused⟩ | ⟨allocation, next, granted, answers, nextSound, adds⟩
      · simp only [refused]
        exact .inl ⟨failure, rfl⟩
      · rw [granted] at frame
        subst frame
        simp only [granted]
        exact .inr ⟨kind, allocation, _, rfl, nextSound.congr rfl,
          ⟨vetted, answers, ⟨adds.fresh, adds.liveIn_eq⟩, rfl⟩, rfl, rfl⟩

theorem grant_eq_ok {next : AllocationService} {kind : AllocatorKind} {device : String}
    {request : AllocationRequest} {clock : Clock} {allocation : GpuAllocation}
    (granted : service.grant device request clock = (.ok (kind, allocation), next)) :
    ∃ booked, service.vet device request = .ok kind ∧
      service.allocateIn kind device request clock = (.ok allocation, booked) ∧
      next = ({ booked with
        owners := booked.owners.insert allocation.id kind } : AllocationService).syncCount
          device := by
  unfold grant at granted
  cases vetted : service.vet device request with
  | error failure =>
      rw [vetted] at granted
      cases granted
  | ok routed =>
      rw [vetted] at granted
      dsimp only at granted
      cases answered : service.allocateIn routed device request clock with
      | mk outcome booked =>
          rw [answered] at granted
          cases outcome with
          | error failure => cases granted
          | ok allocated =>
              cases granted
              exact ⟨booked, rfl, answered, rfl⟩

/-- A granted allocation is handed out, or taken back if its session does not start. -/
theorem complete_cases (service : AllocationService) (kind : AllocatorKind)
    (allocation : GpuAllocation) :
    (∃ isolation, service.openSession allocation = (.ok (), { service with isolation }) ∧
      service.complete kind allocation = (.ok allocation, { service with isolation })) ∨
    ∃ failure isolation,
      service.openSession allocation = (.error failure, { service with isolation }) ∧
      service.complete kind allocation = (.error failure,
        ((({ service with isolation } : AllocationService).forget allocation.id kind).releaseFrom
          kind allocation.id).2.syncCount allocation.device) := by
  obtain ⟨isolation, same⟩ := service.openSession_frame allocation
  unfold complete
  cases opened : service.openSession allocation with
  | mk outcome next =>
      rw [opened] at same
      subst same
      cases outcome with
      | ok => exact .inl ⟨isolation, rfl, rfl⟩
      | error failure => exact .inr ⟨failure, isolation, rfl, rfl⟩

/-- A name that is given up at once leaves no trace in the index. -/
theorem owners_forget {before after : AllocationService} {id : String} {kind : AllocatorKind}
    (unused : before.owners.get? id = none)
    (entered : after.owners = before.owners.insert id kind) :
    (after.forget id kind).owners = before.owners := by
  have held : after.owners.get? id = some kind := by rw [entered, Keyed.get?_insert_self]
  unfold forget
  rw [if_pos held, entered]
  exact Keyed.erase_insert unused kind

theorem forget_frame (service : AllocationService) (id : String) (kind : AllocatorKind) :
    ∃ owners, service.forget id kind = { service with owners } := by
  unfold forget
  split
  · exact ⟨_, rfl⟩
  · exact ⟨service.owners, rfl⟩

/-- A grant has been taken back: what lives, and under which names, is as it was. -/
structure Restores (before granted after : AllocationService) : Prop where
  sound : after.Sound
  liveIn_eq : after.liveIn = before.liveIn
  owners_eq : after.owners = before.owners
  registry_eq : after.registry = granted.registry
  isolation_eq : after.isolation = granted.isolation

theorem Grants.restores {before granted : AllocationService} {device : String}
    {request : AllocationRequest} {kind : AllocatorKind} {allocation : GpuAllocation}
    (grants : before.Grants granted device request kind allocation) (sound : granted.Sound) :
    before.Restores granted
      ((granted.forget allocation.id kind).releaseFrom kind allocation.id).2 := by
  obtain ⟨owners, forgotten⟩ := granted.forget_frame allocation.id kind
  have same : (granted.forget allocation.id kind).allocators = granted.allocators := by
    rw [forgotten]
    rfl
  obtain ⟨_, _, _, released⟩ :=
    (granted.forget allocation.id kind).releaseFrom_frame kind allocation.id
  constructor
  · exact (sound.congr same).releaseFrom kind allocation.id
  · exact (grants.adds.congr same).undo (sound.congr same)
  · rw [owners_releaseFrom]
    exact owners_forget grants.unused grants.owners_eq
  · rw [released, forgotten]
  · rw [released, forgotten]

/-- A request leaves the names and what lives under them as they were, or is granted. -/
theorem allocate_cases (sound : service.Sound) (device : String) (request : AllocationRequest)
    (clock : Clock) :
    (service.allocate device request clock).2.Sound ∧
    ((∃ failure, (service.allocate device request clock).1 = .error failure ∧
        (service.allocate device request clock).2.liveIn = service.liveIn ∧
        (service.allocate device request clock).2.owners = service.owners) ∨
      ∃ kind allocation, (service.allocate device request clock).1 = .ok allocation ∧
        service.Grants (service.allocate device request clock).2 device request kind
          allocation) := by
  unfold allocate
  rcases grant_cases sound device request clock with
    ⟨failure, refused⟩ | ⟨kind, allocation, next, granted, nextSound, grants, _, _⟩
  · rw [refused]
    exact ⟨sound, .inl ⟨failure, rfl, rfl, rfl⟩⟩
  · rw [granted]
    dsimp only
    rcases next.complete_cases kind allocation with
      ⟨isolation, _, completed⟩ | ⟨failure, isolation, _, undone⟩
    · rw [completed]
      exact ⟨nextSound.congr rfl, .inr ⟨kind, allocation, rfl, grants.congr rfl rfl⟩⟩
    · rw [undone]
      have opened : service.Grants { next with isolation } device request kind allocation :=
        grants.congr rfl rfl
      have restores := opened.restores (nextSound.congr rfl)
      exact ⟨restores.sound.congr rfl,
        .inl ⟨failure, rfl, restores.liveIn_eq, restores.owners_eq⟩⟩

/-- An automatic request is turned down, or is one for the device that was picked. -/
theorem allocateAuto_picks (service : AllocationService) (strategy : SelectionStrategy)
    (request : AllocationRequest) (clock : Clock) :
    (∃ failure, service.allocateAuto strategy request clock = (.error failure, service)) ∨
    ∃ device selector, service.allocateAuto strategy request clock =
      { service with selector }.allocate device request clock := by
  unfold allocateAuto
  dsimp only
  cases service.selector.choose strategy (service.candidates request)
      (noDeviceFor "no available device" request) with
  | mk outcome selector =>
      cases outcome with
      | error failure => exact .inl ⟨failure, rfl⟩
      | ok device => exact .inr ⟨device, selector, rfl⟩

theorem allocateAuto_cases (sound : service.Sound) (strategy : SelectionStrategy)
    (request : AllocationRequest) (clock : Clock) :
    (service.allocateAuto strategy request clock).2.Sound ∧
    ((∃ failure, (service.allocateAuto strategy request clock).1 = .error failure ∧
        (service.allocateAuto strategy request clock).2.liveIn = service.liveIn ∧
        (service.allocateAuto strategy request clock).2.owners = service.owners) ∨
      ∃ device kind allocation,
        (service.allocateAuto strategy request clock).1 = .ok allocation ∧
        service.Grants (service.allocateAuto strategy request clock).2 device request kind
          allocation) := by
  rcases service.allocateAuto_picks strategy request clock with
    ⟨failure, refused⟩ | ⟨device, selector, picked⟩
  · rw [refused]
    exact ⟨sound, .inl ⟨failure, rfl, rfl, rfl⟩⟩
  · rw [picked]
    have selected : ({ service with selector } : AllocationService).Sound := sound.congr rfl
    obtain ⟨kept, refused | ⟨kind, allocation, granted, grants⟩⟩ :=
      allocate_cases selected device request clock
    · exact ⟨kept, .inl refused⟩
    · exact ⟨kept, .inr ⟨device, kind, allocation, granted, grants.vetted, grants.answers,
        ⟨grants.adds.fresh, grants.adds.liveIn_eq⟩, grants.owners_eq⟩⟩

end Allocate

section Others

variable {service : AllocationService}

/-- A release finds no such name, fails in the allocator that should hold it, or takes
the allocation out of it together with its name. -/
theorem release_cases (service : AllocationService) (id : String) :
    (service.owners.get? id = none ∧
      service.release id = (refuse (.notFound .allocation id), service)) ∨
    ∃ kind, service.owners.get? id = some kind ∧
      ((∃ failure, (service.releaseFrom kind id).1 = .error failure ∧
          service.release id = (.error failure, (service.releaseFrom kind id).2)) ∨
        ∃ released, (service.releaseFrom kind id).1 = .ok released ∧
          service.release id = (.ok released,
            ({ (service.releaseFrom kind id).2 with
              owners := service.owners.erase id }.syncCount released.device).closeSession
                released)) := by
  unfold release
  cases owner : service.owners.get? id with
  | none => exact .inl ⟨rfl, rfl⟩
  | some kind =>
      refine .inr ⟨kind, rfl, ?_⟩
      have kept := service.owners_releaseFrom kind id
      dsimp only
      cases released : service.releaseFrom kind id with
      | mk outcome next =>
          rw [released] at kept
          cases outcome with
          | error failure => exact .inl ⟨failure, rfl, rfl⟩
          | ok allocation => exact .inr ⟨allocation, rfl, by rw [← kept]⟩

theorem allocators_release (service : AllocationService) (id : String) :
    (service.release id).2 = service ∨
    ∃ kind, service.owners.get? id = some kind ∧
      (service.release id).2.allocators = (service.releaseFrom kind id).2.allocators := by
  rcases service.release_cases id with
    ⟨_, unknown⟩ | ⟨kind, owner, ⟨_, _, refused⟩ | ⟨released, _, done⟩⟩
  · exact .inl (by rw [unknown])
  · exact .inr ⟨kind, owner, by rw [refused]⟩
  · obtain ⟨_, closed⟩ := closeSession_frame
      ({ (service.releaseFrom kind id).2 with
        owners := service.owners.erase id }.syncCount released.device) released
    exact .inr ⟨kind, owner, by rw [done, closed]; rfl⟩

/-- Expired allocations lose their names; counts and sessions follow. -/
theorem cleanup_frame (service : AllocationService) (now : Timestamp) :
    ∃ registry isolation, (service.cleanup now).2 =
      { (service.expireAll now).2 with
        owners := (service.expireAll now).1.foldl
          (fun owners expired => owners.erase expired.id) service.owners
        registry, isolation } := by
  unfold cleanup
  dsimp only
  obtain ⟨registry, counted⟩ := syncCounts_frame
    { (service.expireAll now).2 with
      owners := (service.expireAll now).1.foldl
        (fun owners expired => owners.erase expired.id) service.owners }
    (service.expireAll now).1
  rw [show (service.expireAll now).2.owners = service.owners from rfl, counted]
  obtain ⟨isolation, closed⟩ := closeSessions_frame
    { (service.expireAll now).2 with
      owners := (service.expireAll now).1.foldl
        (fun owners expired => owners.erase expired.id) service.owners
      registry } (service.expireAll now).1
  exact ⟨registry, isolation, closed⟩

theorem allocators_cleanup (service : AllocationService) (now : Timestamp) :
    (service.cleanup now).2.allocators = (service.expireAll now).2.allocators := by
  obtain ⟨_, _, done⟩ := service.cleanup_frame now
  rw [done]
  rfl

theorem syncDevice_frame (service : AllocationService) (device : Device) (now : Instant) :
    ∃ registry fractional partitioned scheduler, (service.syncDevice device now).2 =
      { service with registry, fractional, partitioned, scheduler } := by
  unfold syncDevice
  cases device.descriptor.partition with
  | none => exact ⟨_, _, _, _, rfl⟩
  | some config => exact ⟨_, _, _, _, rfl⟩

theorem sync_frame (service : AllocationService) (now : Instant) :
    ∃ registry fractional partitioned scheduler, (service.sync now).2 =
      { service with registry, fractional, partitioned, scheduler } := by
  unfold sync
  induction service.registry.list generalizing service with
  | nil => exact ⟨_, _, _, _, rfl⟩
  | cons device rest ih =>
      obtain ⟨_, _, _, _, first⟩ := service.syncDevice_frame device now
      obtain ⟨registry, fractional, partitioned, scheduler, others⟩ :=
        ih (service.syncDevice device now).2
      refine ⟨registry, fractional, partitioned, scheduler, others.trans ?_⟩
      rw [first]

theorem refresh_frame (service : AllocationService) (discovery : Discovery) (clock : Clock) :
    ∃ registry fractional partitioned scheduler, (service.refresh discovery clock).2 =
      { service with registry, fractional, partitioned, scheduler } := by
  unfold refresh
  cases service.registry.refreshAll discovery clock.wall with
  | mk outcome registry =>
      cases outcome with
      | error failure => exact ⟨_, _, _, _, rfl⟩
      | ok summary => exact sync_frame { service with registry } clock.monotonic

theorem Sound.refresh (sound : service.Sound) (discovery : Discovery) (clock : Clock) :
    (service.refresh discovery clock).2.Sound := by
  unfold AllocationService.refresh
  cases service.registry.refreshAll discovery clock.wall with
  | mk outcome registry =>
      cases outcome with
      | error failure => exact sound.congr rfl
      | ok summary =>
          have refreshed : ({ service with registry } : AllocationService).Sound := sound.congr rfl
          exact refreshed.sync clock.monotonic

theorem liveIn_refresh (service : AllocationService) (discovery : Discovery) (clock : Clock) :
    (service.refresh discovery clock).2.liveIn = service.liveIn := by
  unfold refresh
  cases service.registry.refreshAll discovery clock.wall with
  | mk outcome registry =>
      cases outcome with
      | error failure => rfl
      | ok summary => exact liveIn_sync { service with registry } clock.monotonic

end Others

section Steps

variable {service : AllocationService}

theorem sound_new (setup : ServiceSetup) : setup.service.Sound :=
  ⟨FractionalAllocator.sound_new setup.policy, PartitionAllocator.sound_new setup.policy,
    TimeSlicingScheduler.sound_new setup.scheduler setup.policy⟩

theorem Sound.perform (sound : service.Sound) (operation : Operation) :
    (service.perform operation).Sound := by
  cases operation with
  | allocate device request clock => exact (allocate_cases sound device request clock).1
  | allocateAuto strategy request clock =>
      exact (allocateAuto_cases sound strategy request clock).1
  | release id =>
      rcases service.allocators_release id with same | ⟨kind, _, released⟩
      · exact sound.congr (congrArg allocators same)
      · exact (sound.releaseFrom kind id).congr released
  | cleanup now => exact (sound.expireAll now).congr (service.allocators_cleanup now)
  | rotate now => exact sound.rotate now
  | refresh discovery clock => exact sound.refresh discovery clock
  | sync now => exact sound.sync now
  | poll discovery now => exact sound.congr rfl
  | refreshDevice described now => exact sound.congr rfl
  | setActive device count => exact sound.congr rfl
  | checkHealth => exact sound.congr service.allocators_checkHealth
  | setBackend backend => exact sound.congr rfl

theorem Sound.run (sound : service.Sound) (operations : List Operation) :
    (service.run operations).Sound :=
  run_keeps Sound (fun _ operation sound => sound.perform operation) sound operations

/-- An operation that grants something adds it where its device is served. -/
theorem adds_perform (sound : service.Sound) {operation : Operation}
    {allocation : GpuAllocation} (granted : service.granted? operation = some allocation) :
    ∃ request kind, service.vet allocation.device request = .ok kind ∧
      allocation.Answers allocation.device request ∧
      service.Adds (service.perform operation) kind allocation := by
  cases operation with
  | allocate device request clock =>
      obtain ⟨_, ⟨failure, refused, _⟩ | ⟨kind, allocated, done, vetted, answers, adds, _⟩⟩ :=
        allocate_cases sound device request clock
      · simp [granted?, refused, Except.toOption] at granted
      · simp only [granted?, done, Except.toOption, Option.some.injEq] at granted
        subst granted
        rw [← answers.device_eq] at vetted
        exact ⟨request, kind, vetted, answers.device_eq ▸ answers, adds⟩
  | allocateAuto strategy request clock =>
      obtain ⟨_, ⟨failure, refused, _⟩ |
          ⟨device, kind, allocated, done, vetted, answers, adds, _⟩⟩ :=
        allocateAuto_cases sound strategy request clock
      · simp [granted?, refused, Except.toOption] at granted
      · simp only [granted?, done, Except.toOption, Option.some.injEq] at granted
        subst granted
        rw [← answers.device_eq] at vetted
        exact ⟨request, kind, vetted, answers.device_eq ▸ answers, adds⟩
  | release | cleanup | rotate | refresh | sync | poll | refreshDevice | setActive
  | checkHealth | setBackend => cases granted

/-- An operation that grants nothing brings nothing to life. -/
theorem sublist_perform (sound : service.Sound) {operation : Operation}
    (ungranted : service.granted? operation = none) (kind : AllocatorKind) (device : String) :
    (((service.perform operation).liveIn kind device).map (·.id)).Sublist
      ((service.liveIn kind device).map (·.id)) := by
  have renamed {names : List String} (same : names = (service.liveIn kind device).map (·.id)) :
      names.Sublist ((service.liveIn kind device).map (·.id)) := same ▸ .refl names
  have unchanged {after : AllocationService} (same : after.liveIn = service.liveIn) :
      ((after.liveIn kind device).map (·.id)).Sublist
        ((service.liveIn kind device).map (·.id)) := renamed (by rw [same])
  cases operation with
  | allocate place request clock =>
      obtain ⟨_, ⟨failure, _, same, _⟩ | ⟨_, allocated, done, _⟩⟩ :=
        allocate_cases sound place request clock
      · exact unchanged same
      · simp [granted?, done, Except.toOption] at ungranted
  | allocateAuto strategy request clock =>
      obtain ⟨_, ⟨failure, _, same, _⟩ | ⟨_, _, allocated, done, _⟩⟩ :=
        allocateAuto_cases sound strategy request clock
      · exact unchanged same
      · simp [granted?, done, Except.toOption] at ungranted
  | release id =>
      rcases service.allocators_release id with same | ⟨holder, _, released⟩
      · exact unchanged (congrArg liveIn same)
      · change (((service.release id).2.liveIn kind device).map _).Sublist _
        rw [liveIn_congr released, liveIn_releaseFrom sound]
        split
        · exact List.filter_sublist.map _
        · exact .refl _
  | cleanup now =>
      change (((service.cleanup now).2.liveIn kind device).map _).Sublist _
      rw [liveIn_congr (service.allocators_cleanup now), liveIn_expireAll sound]
      exact List.filter_sublist.map _
  | rotate now => exact renamed (map_liveIn_rotate service now (·.id) (fun _ _ => rfl) kind device)
  | refresh discovery clock => exact unchanged (service.liveIn_refresh discovery clock)
  | sync now => exact unchanged (service.liveIn_sync now)
  | poll discovery now => exact unchanged rfl
  | refreshDevice described now => exact unchanged rfl
  | setActive place count => exact unchanged rfl
  | checkHealth => exact unchanged (liveIn_congr service.allocators_checkHealth)
  | setBackend backend => exact unchanged rfl

end Steps

section Inputs

/-! What fixed runs are made of. -/

def firstSecond : Clock := ⟨⟨1700000000, 0⟩, ⟨0⟩⟩

def nextSecond : Clock := ⟨⟨1700000001, 0⟩, ⟨1000000000⟩⟩

/-- Undivided devices of eight GiB each. -/
def reportOf (devices : List String) : Discovery :=
  .ok { source := "scripted"
        devices := devices.map fun device =>
          { device, model := "gpu", memoryTotalBytes := 8589934592 } }

def halfFor (id : String) (isolation : IsolationType) : AllocationRequest :=
  { id
    isolation
    workload := { pod := id, space := "default", container := "main" }
    fraction := 0.5
    memoryMib := 1024
    sharing := false }

end Inputs

end AllocationService

end GpuSharing
