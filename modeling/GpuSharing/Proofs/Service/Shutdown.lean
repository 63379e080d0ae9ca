import GpuSharing.Proofs.Service.Sessions

/-!
# Shutting down

A node that shuts down releases what holds an isolation session, device by device and one
allocation after another. The last release on a device stops its session, whether or not the
server manages to, and nothing else on the node is touched.
-/

set_option autoImplicit false

namespace GpuSharing

/-- What the server is asked for when a session is stopped. -/
def IsolationBackend.stopping (backend : IsolationBackend) (device : String) : IsolationCall :=
  ⟨.stop, device, (backend.stop device).isOk⟩

namespace IsolationSessions

/-- The server was asked to stop the sessions of some devices, one after another, and for
nothing else. -/
structure Stops (before after : IsolationSessions) (devices : List String) : Prop where
  backend_eq : after.backend = before.backend
  calls_eq : after.calls = before.calls ++ devices.map before.backend.stopping

theorem Stops.refl (sessions : IsolationSessions) : sessions.Stops sessions [] :=
  ⟨rfl, (List.append_nil _).symm⟩

theorem Stops.trans {first second third : IsolationSessions} {devices others : List String}
    (before : first.Stops second devices) (after : second.Stops third others) :
    first.Stops third (devices ++ others) := by
  refine ⟨after.backend_eq.trans before.backend_eq, ?_⟩
  rw [after.calls_eq, before.calls_eq, before.backend_eq, List.map_append, List.append_assoc]

/-- Only the last holder of a session stops it. -/
theorem HeldBy.stops_release {sessions : IsolationSessions} {holders : String → Nat}
    (held : sessions.HeldBy holders) {device : String} (busy : holders device ≠ 0) :
    sessions.Stops (sessions.release device).2 (if holders device = 1 then [device] else []) := by
  rcases sessions.release_cases device with
    ⟨free, _⟩ | ⟨count, found, ⟨last, released⟩ | ⟨more, released⟩⟩
  · exact absurd (held.eq_of_none free) busy
  · have count_eq := held.eq_of_some found
    rw [if_pos (by omega), released]
    exact ⟨rfl, rfl⟩
  · have count_eq := held.eq_of_some found
    rw [if_neg (by omega), released]
    exact ⟨rfl, (List.append_nil _).symm⟩

end IsolationSessions

namespace AllocationService

variable {service : AllocationService}

theorem list_of_liveIn {after : AllocationService} (keep : GpuAllocation → Bool) {device : String}
    (left : ∀ kind, after.liveIn kind device = (service.liveIn kind device).filter keep) :
    after.list device = (service.list device).filter keep := by
  simp only [list_eq, left, List.filter_append]

section Release

/-- A release of something that holds a session takes that one thing off the books, and lets go
of the session. -/
theorem Owned.release_isolated (owned : service.Owned) {sessions : IsolationSessions}
    (present : service.isolation = some sessions) {kind : AllocatorKind} {place : String}
    {live : GpuAllocation} (member : live ∈ service.liveIn kind place)
    (process : live.isolation = .process) :
    (service.release live.id).2.isolation = some (sessions.release place).2 ∧
      ∀ other device, (service.release live.id).2.liveIn other device =
        (service.liveIn other device).filter (·.id ≠ live.id) := by
  have located := owned.sound.located kind place live member
  rcases owned.release_cases live.id with ⟨unused, _⟩ | ⟨holder, device, found, held, named, done⟩
  · rw [owned.owner member] at unused
    cases unused
  · obtain rfl := owned.eq_of_id_eq held member named
    obtain ⟨rfl, _⟩ := owned.indexed.single found.id holder device kind place
      (List.mem_map_of_mem held) (List.mem_map_of_mem member)
    obtain ⟨_, _, _, frame⟩ := service.releaseFrom_frame holder found.id
    obtain ⟨_, closed⟩ := closeSession_frame
      ({ (service.releaseFrom holder found.id).2 with
        owners := service.owners.erase found.id }.syncCount found.device)
      { found with status := .completed }
    rw [done]
    constructor
    · unfold closeSession sessionsFor
      rw [frame]
      simp [process, syncCount, present, located]
    · intro other device
      rw [closed]
      change (service.releaseFrom holder found.id).2.liveIn other device = _
      rw [liveIn_releaseFrom owned.sound]
      split
      · rfl
      · -- No other allocator holds the name.
        rename_i differs
        refine (List.filter_eq_self.mpr fun another there => ?_).symm
        refine decide_eq_true fun same => differs ?_
        exact (owned.indexed.single found.id other device holder place
          (same ▸ List.mem_map_of_mem there) (List.mem_map_of_mem member)).1

end Release

section Clearing

/-- What needs sessions is gone from some devices, all else is as it was, and the server was
asked to stop the sessions of some. -/
structure Cleared (before after : AllocationService) (devices stopped : List String) : Prop where
  owned : after.Owned
  held : after.SessionsHeld
  liveIn_eq : ∀ kind place, after.liveIn kind place = (before.liveIn kind place).filter
    fun live => ¬(live.isolation = .process ∧ place ∈ devices)
  stops : ∀ sessions, before.isolation = some sessions →
    ∃ closed, after.isolation = some closed ∧ sessions.Stops closed stopped

theorem Cleared.nil (owned : service.Owned) (held : service.SessionsHeld) :
    service.Cleared service [] [] where
  owned := owned
  held := held
  liveIn_eq kind place := by simp
  stops sessions present := ⟨sessions, present, .refl sessions⟩

theorem Cleared.trans {first second third : AllocationService}
    {devices others stopped more : List String} (before : first.Cleared second devices stopped)
    (after : second.Cleared third others more) :
    first.Cleared third (devices ++ others) (stopped ++ more) where
  owned := after.owned
  held := after.held
  liveIn_eq kind place := by
    rw [after.liveIn_eq, before.liveIn_eq, List.filter_filter]
    refine List.filter_congr fun live _ => ?_
    simp only [List.mem_append]
    grind
  stops sessions present := by
    obtain ⟨between, opened, earlier⟩ := before.stops sessions present
    obtain ⟨closed, left, later⟩ := after.stops between opened
    exact ⟨closed, left, earlier.trans later⟩

def isolatedOn (service : AllocationService) (device : String) : List GpuAllocation :=
  (service.list device).filter (·.isolation = .process)

theorem isolated_eq_length (service : AllocationService) (device : String) :
    service.isolated device = (service.isolatedOn device).length :=
  List.countP_eq_length_filter

theorem mem_isolatedOn {device : String} {live : GpuAllocation} :
    live ∈ service.isolatedOn device ↔
      (∃ kind, live ∈ service.liveIn kind device) ∧ live.isolation = .process := by
  simp [isolatedOn, mem_list]

theorem isolatedOn_release (owned : service.Owned) {sessions : IsolationSessions}
    (present : service.isolation = some sessions) {device : String} {live : GpuAllocation}
    {rest : List GpuAllocation} (here : service.isolatedOn device = live :: rest) :
    (service.release live.id).2.isolatedOn device = rest := by
  obtain ⟨⟨kind, member⟩, process⟩ :=
    mem_isolatedOn.mp (here ▸ List.mem_cons_self : live ∈ service.isolatedOn device)
  obtain ⟨_, left⟩ := owned.release_isolated present member process
  have names : ((live :: rest).map (·.id)).Nodup := by
    rw [← here]
    exact (owned.nodup_list device).sublist (List.filter_sublist.map _)
  rw [isolatedOn, list_of_liveIn (·.id ≠ live.id) fun kind => left kind device,
    List.filter_comm]
  change (service.isolatedOn device).filter _ = rest
  rw [here, List.filter_cons_of_neg (by simp)]
  refine List.filter_eq_self.mpr fun other later => decide_eq_true fun same => ?_
  have again : other.id ∈ rest.map (·.id) := List.mem_map_of_mem later
  rw [same] at again
  exact (List.nodup_cons.mp names).1 again

/-- One device is cleared by the release of what needs its session, one after another. -/
theorem cleared_releaseEach {device : String} {isolated : List GpuAllocation}
    (owned : service.Owned) (held : service.SessionsHeld)
    (here : service.isolatedOn device = isolated) :
    service.Cleared (service.releaseEach (isolated.map (·.id))) [device]
      (if isolated = [] then [] else [device]) := by
  -- What is left on the device after a release is the rest of the list.
  induction isolated generalizing service with
  | nil =>
      change service.Cleared service [device] []
      refine ⟨owned, held, fun kind place => ?_, fun sessions present =>
        ⟨sessions, present, .refl sessions⟩⟩
      refine (List.filter_eq_self.mpr fun live member => decide_eq_true ?_).symm
      intro ⟨process, place_eq⟩
      rw [List.mem_singleton] at place_eq
      subst place_eq
      have isolated := mem_isolatedOn.mpr ⟨⟨kind, member⟩, process⟩
      rw [here] at isolated
      cases isolated
  | cons live rest ih =>
      obtain ⟨⟨kind, member⟩, process⟩ :=
        mem_isolatedOn.mp (here ▸ List.mem_cons_self : live ∈ service.isolatedOn device)
      obtain ⟨sessions, present, counted⟩ := held
      have busy : service.isolated device = rest.length + 1 := by
        rw [isolated_eq_length, here, List.length_cons]
      obtain ⟨released, left⟩ := owned.release_isolated present member process
      have nextHeld : (service.release live.id).2.SessionsHeld :=
        sessionsHeld_iff.mpr <|
          (sessionsHeld_iff.mp ⟨sessions, present, counted⟩).release owned live.id
      have cleared := ih (owned.release live.id) nextHeld (isolatedOn_release owned present here)
      refine ⟨cleared.owned, cleared.held, fun other place => ?_, fun others same => ?_⟩
      · refine (cleared.liveIn_eq other place).trans ?_
        rw [left, List.filter_filter]
        refine List.filter_congr fun another there => ?_
        -- Whatever has the name of the released one is the released one.
        have own (same : another.id = live.id) : another.isolation = .process ∧ place = device := by
          obtain rfl := owned.eq_of_id_eq there member same
          exact ⟨process, ((owned.sound.located other place another there).symm.trans
            (owned.sound.located kind device another member))⟩
        grind
      · rw [present, Option.some.injEq] at same
        subst same
        -- Only the release of the last one finds a single holder and stops the session.
        have stops := counted.stops_release (by rw [busy]; exact Nat.succ_ne_zero _)
        obtain ⟨closed, last, later⟩ := cleared.stops _ released
        refine ⟨closed, last, ?_⟩
        have both := stops.trans later
        rw [busy] at both
        cases rest with
        | nil => exact both
        | cons next rest => simpa using both

theorem cleared_releaseIsolated (owned : service.Owned) (held : service.SessionsHeld)
    {device : String} (busy : service.isolated device ≠ 0) :
    service.Cleared (service.releaseIsolated device) [device] [device] := by
  have cleared := cleared_releaseEach owned held (rfl : service.isolatedOn device = _)
  have some : service.isolatedOn device ≠ [] := fun none => busy <| by
    rw [isolated_eq_length, none, List.length_nil]
  rw [if_neg some] at cleared
  exact cleared

theorem Cleared.isolated_eq {after : AllocationService} {device : String} {stopped : List String}
    (cleared : service.Cleared after [device] stopped) {other : String} (differs : other ≠ device) :
    after.isolated other = service.isolated other := by
  have same : after.list other = (service.list other).filter fun _ => true := by
    refine list_of_liveIn _ fun kind => ?_
    rw [cleared.liveIn_eq]
    exact List.filter_congr fun live _ => by simp [differs]
  unfold isolated
  rw [same, List.filter_true]

theorem cleared_all {devices : List String} (owned : service.Owned) (held : service.SessionsHeld)
    (distinct : devices.Nodup) (busy : ∀ device ∈ devices, service.isolated device ≠ 0) :
    service.Cleared (devices.foldl releaseIsolated service) devices devices := by
  induction devices generalizing service with
  | nil => exact .nil owned held
  | cons device rest ih =>
      obtain ⟨absent, others⟩ := List.nodup_cons.mp distinct
      have first := cleared_releaseIsolated owned held (busy device List.mem_cons_self)
      refine first.trans (ih first.owned first.held others fun other member => ?_)
      rw [first.isolated_eq fun same => absent (same ▸ member)]
      exact busy other (List.mem_cons_of_mem device member)

theorem cleared_shutdown (owned : service.Owned) {sessions : IsolationSessions}
    (present : service.isolation = some sessions) (counted : sessions.HeldBy service.isolated) :
    service.Cleared service.shutdown sessions.activeDevices sessions.activeDevices := by
  unfold shutdown
  rw [present]
  refine cleared_all owned ⟨sessions, present, counted⟩ sessions.counts.nodup_keys ?_
  intro device member
  exact Nat.ne_of_gt ((counted.mem_activeDevices device).mp member)

theorem liveIn_shutdown (owned : service.Owned) {sessions : IsolationSessions}
    (present : service.isolation = some sessions) (counted : sessions.HeldBy service.isolated)
    (kind : AllocatorKind) (device : String) : service.shutdown.liveIn kind device =
      (service.liveIn kind device).filter (·.isolation ≠ .process) := by
  rw [(cleared_shutdown owned present counted).liveIn_eq]
  refine List.filter_congr fun live member => ?_
  have active (process : live.isolation = .process) : device ∈ sessions.activeDevices := by
    rw [counted.mem_activeDevices, isolated_eq_length]
    exact List.length_pos_of_mem (mem_isolatedOn.mpr ⟨⟨kind, member⟩, process⟩)
  grind

theorem activeDevices_eq_nil {sessions : IsolationSessions}
    (counted : sessions.HeldBy service.isolated)
    (unisolated : ∀ kind device, ∀ live ∈ service.liveIn kind device, live.isolation ≠ .process) :
    sessions.activeDevices = [] := by
  refine List.eq_nil_iff_forall_not_mem.mpr fun device member => ?_
  have busy := (counted.mem_activeDevices device).mp member
  rw [isolated_eq_length] at busy
  obtain ⟨live, isolated⟩ := List.exists_mem_of_length_pos busy
  obtain ⟨⟨kind, there⟩, process⟩ := mem_isolatedOn.mp isolated
  exact unisolated kind device live there process

end Clearing

/-- However a node with an isolation server has been used, and however the server answers: after
a shutdown no device has a session, exactly what needed one is gone from every allocator, and
the server was asked to stop each session that there was, once, and for nothing else. -/
theorem run_shutdown (setup : ServiceSetup) (backend : IsolationBackend)
    (operations : List Operation) :
    let service := ({ setup with backend := some backend } : ServiceSetup).service.run operations
    ∃ sessions closed, service.isolation = some sessions ∧
      service.shutdown.isolation = some closed ∧ closed.activeDevices = [] ∧
      sessions.activeDevices.Nodup ∧ sessions.Stops closed sessions.activeDevices ∧
      (∀ kind device, service.shutdown.liveIn kind device =
        (service.liveIn kind device).filter (·.isolation ≠ .process)) ∧
      ∀ id found, service.shutdown.get id = .ok found ↔
        service.get id = .ok found ∧ found.isolation ≠ .process := by
  intro service
  have owned : service.Owned := (owned_new _).run operations
  have held : service.SessionsHeld :=
    (sessionsHeld_new { setup with backend := some backend } rfl).run (owned_new _) operations
  obtain ⟨sessions, present, counted⟩ := held
  have cleared := cleared_shutdown owned present counted
  have lives := liveIn_shutdown owned present counted
  obtain ⟨closed, left, stops⟩ := cleared.stops sessions present
  refine ⟨sessions, closed, present, left, ?_, sessions.counts.nodup_keys, stops, lives, ?_⟩
  · obtain ⟨last, same, right⟩ := cleared.held
    rw [left, Option.some.injEq] at same
    subst same
    refine activeDevices_eq_nil right fun kind device live there => ?_
    rw [lives] at there
    exact of_decide_eq_true (List.mem_filter.mp there).2
  · intro id found
    rw [cleared.owned.get_eq_ok, owned.get_eq_ok]
    simp only [lives, List.mem_filter, decide_eq_true_eq, exists_and_right, and_assoc]

end AllocationService

end GpuSharing
