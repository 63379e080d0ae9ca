import GpuSharing.Proofs.Isolation.Sessions
import GpuSharing.Proofs.Service.Ownership

/-!
# Who holds the sessions

The session of a device is held by the process-isolated allocations that live on it, and
by nothing else, whichever allocator they live in. The isolation server may fail at any
time; the grant for which it could not start a session is undone.
-/

set_option autoImplicit false

namespace GpuSharing.AllocationService

/-- How many of the allocations that live on a device need its session. -/
def isolated (service : AllocationService) (device : String) : Nat :=
  (service.list device).countP (·.isolation = .process)

/-- The node has sessions, and so many hold the one of each device. -/
def SessionsHeldBy (service : AllocationService) (holders : String → Nat) : Prop :=
  ∃ sessions, service.isolation = some sessions ∧ sessions.HeldBy holders

/-- How many holders an allocation is to the session of a device. -/
def holds (allocation : GpuAllocation) (device : String) : Nat :=
  if allocation.isolation = .process ∧ allocation.device = device then 1 else 0

section Sessions

variable {service : AllocationService} {holders : String → Nat}

theorem SessionsHeldBy.congr {other : AllocationService} (held : service.SessionsHeldBy holders)
    (same : other.isolation = service.isolation) : other.SessionsHeldBy holders := by
  unfold SessionsHeldBy
  rw [same]
  exact held

theorem SessionsHeldBy.openSession (held : service.SessionsHeldBy holders)
    (allocation : GpuAllocation) :
    (∃ next, service.openSession allocation = (.ok (), next) ∧
      next.SessionsHeldBy fun device => holders device + holds allocation device) ∨
    ∃ failure next, service.openSession allocation = (.error failure, next) ∧
      next.SessionsHeldBy holders := by
  obtain ⟨sessions, present, counted⟩ := held
  unfold AllocationService.openSession sessionsFor
  by_cases process : allocation.isolation = .process
  · rw [if_pos process, present]
    rcases counted.acquire_cases allocation.device with
      ⟨next, acquired, more⟩ | ⟨failure, next, refused, same⟩
    · simp only [acquired]
      refine .inl ⟨_, rfl, next, rfl, ?_⟩
      simpa [holds, process, eq_comm] using more
    · simp only [refused]
      exact .inr ⟨_, _, rfl, next, rfl, same⟩
  · rw [if_neg process]
    refine .inl ⟨service, rfl, sessions, present, ?_⟩
    simpa [holds, process] using counted

theorem SessionsHeldBy.closeSession (held : service.SessionsHeldBy holders)
    (allocation : GpuAllocation) : (service.closeSession allocation).SessionsHeldBy
      fun device => holders device - holds allocation device := by
  obtain ⟨sessions, present, counted⟩ := held
  unfold AllocationService.closeSession sessionsFor
  by_cases process : allocation.isolation = .process
  · rw [if_pos process, present]
    refine ⟨_, rfl, ?_⟩
    simpa [holds, process, eq_comm] using counted.release allocation.device
  · rw [if_neg process]
    refine ⟨sessions, present, ?_⟩
    simpa [holds, process] using counted

theorem countP_cons_on (allocation : GpuAllocation) (rest : List GpuAllocation)
    (device : String) :
    ((allocation :: rest).filter (·.device = device)).countP (·.isolation = .process) =
      holds allocation device +
        (rest.filter (·.device = device)).countP (·.isolation = .process) := by
  unfold holds
  by_cases here : allocation.device = device
  · rw [List.filter_cons_of_pos (by simpa using here), List.countP_cons, Nat.add_comm]
    simp [here]
  · rw [List.filter_cons_of_neg (by simpa using here)]
    simp [here]

theorem SessionsHeldBy.closeSessions (held : service.SessionsHeldBy holders)
    (allocations : List GpuAllocation) :
    (allocations.foldl AllocationService.closeSession service).SessionsHeldBy fun device =>
      holders device -
        (allocations.filter (·.device = device)).countP (·.isolation = .process) := by
  induction allocations generalizing service holders with
  | nil => exact held
  | cons allocation rest ih =>
      simp only [countP_cons_on, ← Nat.sub_sub]
      exact ih (held.closeSession allocation)

theorem SessionsHeldBy.checkHealth (held : service.SessionsHeldBy holders) :
    service.checkHealth.2.SessionsHeldBy holders := by
  obtain ⟨sessions, present, counted⟩ := held
  unfold AllocationService.checkHealth
  rw [present]
  exact ⟨_, rfl, counted.checkHealth⟩

theorem SessionsHeldBy.setBackend (held : service.SessionsHeldBy holders)
    (backend : IsolationBackend) :
    (service.perform (.setBackend backend)).SessionsHeldBy holders := by
  obtain ⟨sessions, present, counted⟩ := held
  exact ⟨{ sessions with backend }, by simp [perform, present], counted.congr rfl⟩

end Sessions

section Isolated

variable {service after : AllocationService}

theorem isolated_congr (same : after.liveIn = service.liveIn) :
    after.isolated = service.isolated := by
  unfold isolated
  rw [list_congr same]

theorem Adds.isolated_eq {kind : AllocatorKind} {allocation : GpuAllocation}
    (adds : service.Adds after kind allocation) (device : String) :
    after.isolated device = service.isolated device + holds allocation device := by
  unfold isolated holds
  rw [(adds.perm_list device).countP_eq]
  by_cases here : device = allocation.device
  · rw [if_pos here, List.countP_cons]
    simp [here]
  · rw [if_neg here]
    simp [Ne.symm here]

theorem isolated_of_filter (keep : GpuAllocation → Bool)
    (left : ∀ device, after.list device = (service.list device).filter keep) (device : String) :
    after.isolated device = service.isolated device -
      ((service.list device).filter fun live => !keep live).countP (·.isolation = .process) := by
  unfold isolated
  rw [left, List.countP_eq_countP_filter_add (service.list device) _ keep]
  simp

end Isolated

/-- Every live allocation that needs the session of its device holds it. -/
def SessionsHeld (service : AllocationService) : Prop := service.SessionsHeldBy service.isolated

/-- So many of the live allocations that need the session of their device do not hold it yet. -/
def SessionsHeldBut (service : AllocationService) (owed : String → Nat) : Prop :=
  service.SessionsHeldBy fun device => service.isolated device - owed device

theorem sessionsHeld_iff {service : AllocationService} :
    service.SessionsHeld ↔ service.SessionsHeldBut fun _ => 0 :=
  Iff.rfl

section Steps

variable {service : AllocationService} {owed : String → Nat}

theorem SessionsHeldBut.allocate (sound : service.Sound) (held : service.SessionsHeldBut owed)
    (covered : ∀ device, owed device ≤ service.isolated device) (device : String)
    (request : AllocationRequest) (clock : Clock) :
    (service.allocate device request clock).2.SessionsHeldBut owed := by
  unfold AllocationService.allocate
  rcases grant_cases sound device request clock with
    ⟨failure, refused⟩ | ⟨kind, allocation, next, granted, nextSound, grants, _, same⟩
  · rw [refused]
    exact held
  · rw [granted]
    dsimp only
    have nextHeld : next.SessionsHeldBy fun device => service.isolated device - owed device :=
      SessionsHeldBy.congr held same
    rcases next.complete_cases kind allocation with
      ⟨isolation, opened, completed⟩ | ⟨failure, isolation, refused, undone⟩
    · rw [completed]
      have more : (fun device => next.isolated device - owed device) =
          fun device => service.isolated device - owed device + holds allocation device := by
        funext device
        rw [grants.adds.isolated_eq, Nat.sub_add_comm (covered device)]
      rcases nextHeld.openSession allocation with ⟨_, answer, held⟩ | ⟨failure, _, answer, _⟩
      · obtain rfl := (Prod.mk.inj (opened.symm.trans answer)).2
        rw [← more] at held
        exact held
      · cases opened.symm.trans answer
    · rw [undone]
      have opened : service.Grants { next with isolation } device request kind allocation :=
        grants.congr rfl rfl
      have restores := opened.restores (nextSound.congr rfl)
      rcases nextHeld.openSession allocation with ⟨_, answer, _⟩ | ⟨failure, _, answer, held⟩
      · cases refused.symm.trans answer
      · obtain rfl := (Prod.mk.inj (refused.symm.trans answer)).2
        rw [← isolated_congr restores.liveIn_eq] at held
        exact held.congr restores.isolation_eq

theorem SessionsHeldBut.allocateAuto (sound : service.Sound) (held : service.SessionsHeldBut owed)
    (covered : ∀ device, owed device ≤ service.isolated device) (strategy : SelectionStrategy)
    (request : AllocationRequest) (clock : Clock) :
    (service.allocateAuto strategy request clock).2.SessionsHeldBut owed := by
  rcases service.allocateAuto_picks strategy request clock with
    ⟨failure, refused⟩ | ⟨device, selector, picked⟩
  · rw [refused]
    exact held
  · rw [picked]
    have selected : ({ service with selector } : AllocationService).Sound := sound.congr rfl
    exact SessionsHeldBut.allocate selected held covered device request clock

/-- Where the sessions of all allocations that went are closed, what is left holds its own. -/
theorem SessionsHeldBut.drop (held : service.SessionsHeldBut owed) {left : AllocationService}
    (same : left.isolation = service.isolation) (keep : GpuAllocation → Bool)
    (lists : ∀ device, left.list device = (service.list device).filter keep)
    (dropped : List GpuAllocation)
    (reported : ∀ device, (dropped.filter (·.device = device)).map (·.isolation) =
      ((service.list device).filter fun live => !keep live).map (·.isolation)) :
    (dropped.foldl AllocationService.closeSession left).SessionsHeldBut owed := by
  have fewer : (fun device =>
      (dropped.foldl AllocationService.closeSession left).isolated device - owed device) =
        fun device => service.isolated device - owed device -
          (dropped.filter (·.device = device)).countP (·.isolation = .process) := by
    funext device
    obtain ⟨_, closed⟩ := left.closeSessions_frame dropped
    have counted := congrArg (List.countP (· = IsolationType.process)) (reported device)
    rw [List.countP_map, List.countP_map] at counted
    rw [closed, Nat.sub_right_comm]
    exact congrArg (· - owed device)
      ((isolated_of_filter keep lists device).trans (congrArg _ counted.symm))
  unfold SessionsHeldBut
  rw [fewer]
  exact (SessionsHeldBy.congr held same).closeSessions dropped

theorem SessionsHeldBut.release (owned : service.Owned) (held : service.SessionsHeldBut owed)
    (id : String) : (service.release id).2.SessionsHeldBut owed := by
  rcases owned.release_cases id with ⟨_, unknown⟩ | ⟨kind, place, live, member, rfl, done⟩
  · rw [unknown]
    exact held
  · rw [done]
    obtain ⟨_, _, _, frame⟩ := service.releaseFrom_frame kind live.id
    have same : (service.releaseFrom kind live.id).2.isolation = service.isolation := by rw [frame]
    have here : live ∈ service.list live.device :=
      mem_list.mpr ⟨kind, (owned.sound.located kind place live member).symm ▸ member⟩
    change ([_].foldl AllocationService.closeSession _).SessionsHeldBut owed
    refine held.drop ?same (·.id ≠ live.id) ?left _ fun device => ?gone
    case same => exact same
    case left => exact owned.list_releaseFrom member
    simp only [ne_eq, decide_not, Bool.not_not]
    by_cases own : live.device = device
    · subst own
      rw [filter_named (owned.nodup_list live.device) here]
      simp
    · have absent : (service.list device).filter (·.id = live.id) = [] := by
        refine List.filter_eq_nil_iff.mpr fun other there named => own ?_
        rw [← owned.eq_of_mem_list there here (of_decide_eq_true named)]
        exact owned.sound.located_list there
      rw [absent]
      simp [own]

theorem SessionsHeldBut.cleanup (sound : service.Sound) (held : service.SessionsHeldBut owed)
    (now : Timestamp) : (service.cleanup now).2.SessionsHeldBut owed := by
  unfold AllocationService.cleanup
  dsimp only
  obtain ⟨_, counted⟩ := syncCounts_frame
    { (service.expireAll now).2 with
      owners := (service.expireAll now).1.foldl
        (fun owners expired => owners.erase expired.id) service.owners }
    (service.expireAll now).1
  rw [show (service.expireAll now).2.owners = service.owners from rfl, counted]
  refine held.drop ?same (fun live => !live.isExpiredAt now) ?left _ fun device => ?gone
  case same => rfl
  case left => exact list_expireAll sound now
  rw [expireAll_on sound]
  simp [Function.comp_def]

theorem SessionsHeldBut.keep {after : AllocationService} (held : service.SessionsHeldBut owed)
    (isolation : after.isolation = service.isolation)
    (isolated : after.isolated = service.isolated) : after.SessionsHeldBut owed := by
  unfold SessionsHeldBut
  rw [isolated]
  exact SessionsHeldBy.congr held isolation

/-- As long as no more is owed than there is, what is owed stays the same. -/
theorem SessionsHeldBut.perform (owned : service.Owned) (held : service.SessionsHeldBut owed)
    (covered : ∀ device, owed device ≤ service.isolated device) (operation : Operation) :
    (service.perform operation).SessionsHeldBut owed := by
  cases operation with
  | allocate device request clock => exact held.allocate owned.sound covered device request clock
  | allocateAuto strategy request clock =>
      exact held.allocateAuto owned.sound covered strategy request clock
  | release id => exact held.release owned id
  | cleanup now => exact held.cleanup owned.sound now
  | rotate now =>
      refine held.keep rfl (funext fun device => ?_)
      have kinds := map_list_rotate service now (·.isolation) (fun _ _ => rfl) device
      have counted := congrArg (List.countP (· = IsolationType.process)) kinds
      rw [List.countP_map, List.countP_map] at counted
      exact counted
  | refresh discovery clock =>
      obtain ⟨_, _, _, _, refreshed⟩ := service.refresh_frame discovery clock
      exact held.keep ((congrArg isolation refreshed).trans rfl)
        (isolated_congr (service.liveIn_refresh discovery clock))
  | sync now =>
      obtain ⟨_, _, _, _, synced⟩ := service.sync_frame now
      exact held.keep ((congrArg isolation synced).trans rfl)
        (isolated_congr (service.liveIn_sync now))
  | poll discovery now => exact held.keep rfl rfl
  | refreshDevice described now => exact held.keep rfl rfl
  | setActive device count => exact held.keep rfl rfl
  | checkHealth =>
      have same := isolated_congr (liveIn_congr service.allocators_checkHealth)
      change service.checkHealth.2.SessionsHeldBy fun device =>
        service.checkHealth.2.isolated device - owed device
      rw [same]
      exact SessionsHeldBy.checkHealth held
  | setBackend backend => exact SessionsHeldBy.setBackend held backend

theorem SessionsHeld.run (owned : service.Owned) (held : service.SessionsHeld)
    (operations : List Operation) : (service.run operations).SessionsHeld :=
  And.right <| run_keeps (fun service => service.Owned ∧ service.SessionsHeld)
    (fun _ operation kept => ⟨kept.1.perform operation,
      sessionsHeld_iff.mpr <| (sessionsHeld_iff.mp kept.2).perform kept.1
        (fun _ => Nat.zero_le _) operation⟩)
    ⟨owned, held⟩ operations

theorem sessionsHeld_new (setup : ServiceSetup) {backend : IsolationBackend}
    (present : setup.backend = some backend) : setup.service.SessionsHeld :=
  ⟨.new backend, by simp [ServiceSetup.service, present, IsolationSessions.new], fun _ => rfl⟩

end Steps

/-- However the isolation server answers, the session of a device is held as often as
process-isolated allocations live on it, and is there as long as there are any. -/
theorem run_sessions_held (setup : ServiceSetup) (backend : IsolationBackend)
    (operations : List Operation) :
    let service := ({ setup with backend := some backend } : ServiceSetup).service.run operations
    ∃ sessions, service.isolation = some sessions ∧ ∀ device,
      sessions.count device = (service.list device).countP (·.isolation = .process) ∧
        (device ∈ sessions.activeDevices ↔
          0 < (service.list device).countP (·.isolation = .process)) := by
  intro service
  have held := (sessionsHeld_new { setup with backend := some backend } rfl).run (owned_new _)
    operations
  obtain ⟨sessions, present, counted⟩ := held
  exact ⟨sessions, present, fun device =>
    ⟨counted.count_eq device, counted.mem_activeDevices device⟩⟩

end GpuSharing.AllocationService
