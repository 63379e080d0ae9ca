import GpuSharing.Proofs.Isolation.Sessions
import Mathlib.Data.List.Induction

/-!
# Sessions that run

A session runs from a start that works until a stop that works. Whoever starts a session
finds it running. Later holders rely on the first one, but a health check may have
stopped the session since, without being able to start it again.
-/

set_option autoImplicit false

namespace GpuSharing

def IsolationCall.started (device : String) : IsolationCall :=
  { action := .start, device, succeeded := true }

def IsolationCall.stopped (device : String) : IsolationCall :=
  { action := .stop, device, succeeded := true }

/-- After these calls the session of the device runs: a start of it has worked, and no
stop of it has worked since. -/
def RunsAfter (calls : List IsolationCall) (device : String) : Prop :=
  ∃ before since, calls = before ++ .started device :: since ∧ .stopped device ∉ since

section Calls

variable {device : String}

theorem not_runsAfter_nil : ¬RunsAfter [] device := by
  rintro ⟨before, since, shape, _⟩
  cases before with
  | nil => cases shape
  | cons call rest => cases shape

theorem runsAfter_cons {call : IsolationCall} {rest : List IsolationCall} :
    RunsAfter (call :: rest) device ↔
      RunsAfter rest device ∨ call = .started device ∧ .stopped device ∉ rest := by
  constructor
  · rintro ⟨before, since, shape, unstopped⟩
    cases before with
    | nil =>
        obtain ⟨rfl, rfl⟩ := List.cons.inj shape
        exact .inr ⟨rfl, unstopped⟩
    | cons first before =>
        obtain ⟨rfl, rfl⟩ := List.cons.inj shape
        exact .inl ⟨before, since, rfl, unstopped⟩
  · rintro (⟨before, since, rfl, unstopped⟩ | ⟨rfl, unstopped⟩)
    · exact ⟨call :: before, since, rfl, unstopped⟩
    · exact ⟨[], rest, rfl, unstopped⟩

theorem runsAfter_append {first second : List IsolationCall} :
    RunsAfter (first ++ second) device ↔
      RunsAfter second device ∨ RunsAfter first device ∧ .stopped device ∉ second := by
  induction first with
  | nil => simp [not_runsAfter_nil]
  | cons call rest ih =>
      rw [List.cons_append, runsAfter_cons, runsAfter_cons, ih, List.mem_append, not_or,
        or_and_right, or_assoc, and_assoc]

theorem RunsAfter.started_mem {calls : List IsolationCall} (runs : RunsAfter calls device) :
    .started device ∈ calls := by
  obtain ⟨before, since, rfl, _⟩ := runs
  exact List.mem_append_right before List.mem_cons_self

theorem runsAfter_append_of_unstarted {first second : List IsolationCall}
    (unstarted : .started device ∉ second) :
    RunsAfter (first ++ second) device ↔ RunsAfter first device ∧ .stopped device ∉ second := by
  rw [runsAfter_append, or_iff_right fun runs => unstarted runs.started_mem]

end Calls

namespace IsolationSessions

/-- The session of the device runs, by all that the server has been asked for. -/
def Running (sessions : IsolationSessions) (device : String) : Prop :=
  RunsAfter sessions.calls device

def starts (sessions : IsolationSessions) (device : String) : Nat :=
  sessions.calls.count (.started device)

/-- A health check that comes now stops the session and fails to start it again. -/
structure Loses (sessions : IsolationSessions) (device : String) : Prop where
  held : device ∈ sessions.activeDevices
  unhealthy : sessions.backend.health device ≠ .ok true
  stops : sessions.backend.stop device = .ok ()
  fails : ∃ failure, sessions.backend.start device = .error failure

/-- The session was lost to a health check, and has not been started since. -/
def Lost (sessions : IsolationSessions) (operations : List Operation) (device : String) : Prop :=
  ∃ before, before ++ [.checkHealth] <+: operations ∧ (sessions.run before).Loses device ∧
    (sessions.run operations).starts device = (sessions.run before).starts device

section Steps

variable {sessions : IsolationSessions} {device : String}

theorem calls_perform (sessions : IsolationSessions) (operation : Operation) :
    ∃ since, (sessions.perform operation).calls = sessions.calls ++ since := by
  cases operation with
  | acquire place =>
      change ∃ since, (sessions.acquire place).2.calls = sessions.calls ++ since
      rcases sessions.acquire_cases place with
        ⟨count, _, acquired⟩ | ⟨_, ⟨_, acquired⟩ | ⟨failure, _, refused⟩⟩
      · rw [acquired]
        exact ⟨[], (List.append_nil _).symm⟩
      · rw [acquired]
        exact ⟨_, rfl⟩
      · rw [refused]
        exact ⟨_, rfl⟩
  | release place =>
      change ∃ since, (sessions.release place).2.calls = sessions.calls ++ since
      rcases sessions.release_cases place with
        ⟨_, released⟩ | ⟨count, _, ⟨_, released⟩ | ⟨_, released⟩⟩
      · rw [released]
        exact ⟨[], (List.append_nil _).symm⟩
      · rw [released]
        exact ⟨_, rfl⟩
      · rw [released]
        exact ⟨[], (List.append_nil _).symm⟩
  | checkHealth => exact ⟨_, congrArg calls sessions.checkHealth_eq⟩
  | setBackend backend => exact ⟨[], (List.append_nil _).symm⟩

theorem starts_le_run (sessions : IsolationSessions) (operations : List Operation)
    (device : String) : sessions.starts device ≤ (sessions.run operations).starts device := by
  induction operations generalizing sessions with
  | nil => exact Nat.le_refl _
  | cons operation rest ih =>
      obtain ⟨since, asked⟩ := sessions.calls_perform operation
      have more : sessions.starts device ≤ (sessions.perform operation).starts device := by
        unfold starts
        rw [asked, List.count_append]
        exact Nat.le_add_right _ _
      exact Nat.le_trans more (ih (sessions.perform operation))

/-- The session was started, and runs. -/
structure Started (before after : IsolationSessions) (device : String) : Prop where
  running : after.Running device
  more : before.starts device < after.starts device

/-- The session was held before and was not started again. It still runs if it ran then,
unless it was lost. -/
structure Kept (before after : IsolationSessions) (device : String) (lost : Prop) : Prop where
  held : device ∈ before.activeDevices
  running_iff : after.Running device ↔ before.Running device ∧ ¬lost
  starts_eq : after.starts device = before.starts device

theorem Kept.of_calls {after : IsolationSessions} {calls : List IsolationCall} {lost : Prop}
    (held : device ∈ sessions.activeDevices) (asked : after.calls = sessions.calls ++ calls)
    (unstarted : .started device ∉ calls) (stopped : .stopped device ∈ calls ↔ lost) :
    sessions.Kept after device lost where
  held := held
  running_iff := by
    unfold Running
    rw [asked, runsAfter_append_of_unstarted unstarted, stopped]
  starts_eq := by
    unfold starts
    rw [asked, List.count_append, List.count_eq_zero.mpr unstarted, Nat.add_zero]

theorem Started.of_calls {after : IsolationSessions} (before since : List IsolationCall)
    (asked : after.calls = sessions.calls ++ (before ++ .started device :: since))
    (unstopped : .stopped device ∉ since) : sessions.Started after device where
  running := ⟨sessions.calls ++ before, since, by rw [asked, List.append_assoc], unstopped⟩
  more := by
    unfold starts
    rw [asked, List.count_append, List.count_append, List.count_cons_self]
    omega

theorem Kept.of_same {after : IsolationSessions} (held : device ∈ sessions.activeDevices)
    (same : after.calls = sessions.calls) : sessions.Kept after device False :=
  .of_calls held (same.trans (List.append_nil _).symm) List.not_mem_nil
    (iff_of_false List.not_mem_nil id)

theorem mem_activeDevices_setCount {place : String} {count : Nat} :
    device ∈ (sessions.setCount place count).activeDevices ↔
      device = place ∨ device ∈ sessions.activeDevices := by
  rw [mem_activeDevices, mem_activeDevices]
  unfold setCount
  dsimp only
  rw [Keyed.get?_insert]
  by_cases here : device = place
  · simp [here]
  · simp [here]

theorem Kept.of_setCount {place : String} {earlier count : Nat}
    (found : sessions.counts.get? place = some earlier)
    (held : device ∈ (sessions.setCount place count).activeDevices) :
    sessions.Kept (sessions.setCount place count) device False := by
  refine .of_same ?_ rfl
  rcases mem_activeDevices_setCount.mp held with rfl | before
  · exact mem_activeDevices.mpr ⟨earlier, found⟩
  · exact before

theorem acquire_held {place : String}
    (held : device ∈ (sessions.acquire place).2.activeDevices) :
    sessions.Started (sessions.acquire place).2 device ∨
      sessions.Kept (sessions.acquire place).2 device False := by
  rcases sessions.acquire_cases place with
    ⟨count, found, acquired⟩ | ⟨free, ⟨_, acquired⟩ | ⟨failure, _, refused⟩⟩
  · rw [acquired] at held ⊢
    exact .inr (.of_setCount found held)
  · rw [acquired, mem_activeDevices_setCount] at held
    rw [acquired]
    by_cases here : device = place
    · subst here
      exact .inl (.of_calls [] [] rfl List.not_mem_nil)
    · exact .inr (.of_calls (held.resolve_left here) rfl (by simp [IsolationCall.started, here])
        (by simp [IsolationCall.stopped]))
  · rw [refused] at held ⊢
    exact .inr (.of_calls held rfl (by simp [IsolationCall.started])
      (by simp [IsolationCall.stopped]))

theorem release_held {place : String}
    (held : device ∈ (sessions.release place).2.activeDevices) :
    sessions.Kept (sessions.release place).2 device False := by
  rcases sessions.release_cases place with
    ⟨_, released⟩ | ⟨count, found, ⟨_, released⟩ | ⟨_, released⟩⟩
  · rw [released] at held ⊢
    exact .of_same held rfl
  · rw [released] at held ⊢
    obtain ⟨left, stored⟩ := mem_activeDevices.mp held
    change (sessions.counts.erase place).get? device = some left at stored
    rw [Keyed.get?_erase] at stored
    by_cases here : device = place
    · simp [here] at stored
    · rw [if_neg here] at stored
      exact .of_calls (mem_activeDevices.mpr ⟨left, stored⟩) rfl
        (by simp [IsolationCall.started]) (by simp [IsolationCall.stopped, here])
  · rw [released] at held ⊢
    exact .of_setCount found held

/-- Looking after a session ends with a start that works, or starts nothing. -/
theorem revival_cases (backend : IsolationBackend) (device : String) :
    (∃ before, backend.revival device = before ++ [.started device]) ∨
    .started device ∉ backend.revival device ∧
      (.stopped device ∈ backend.revival device ↔ backend.health device ≠ .ok true ∧
        backend.stop device = .ok () ∧ ∃ failure, backend.start device = .error failure) := by
  unfold IsolationBackend.revival
  split
  · rename_i healthy
    exact .inr (by simp [IsolationCall.started, IsolationCall.stopped, healthy])
  · rename_i unhealthy
    cases backend.start device with
    | ok => exact .inl ⟨[_, _], rfl⟩
    | error failure =>
        refine .inr ⟨by simp [IsolationCall.started, Except.isOk, Except.toBool], ?_⟩
        cases backend.stop device with
        | ok => simpa [IsolationCall.stopped, Except.isOk, Except.toBool] using unhealthy
        | error _ => simp [IsolationCall.stopped, Except.isOk, Except.toBool]

theorem mem_revivals {backend : IsolationBackend} {devices : List String} {call : IsolationCall} :
    call ∈ devices.flatMap backend.revival ↔
      call.device ∈ devices ∧ call ∈ backend.revival call.device := by
  rw [List.mem_flatMap]
  constructor
  · rintro ⟨device, visited, asked⟩
    obtain rfl := backend.device_revival asked
    exact ⟨visited, asked⟩
  · rintro ⟨visited, asked⟩
    exact ⟨call.device, visited, asked⟩

theorem checkHealth_held (held : device ∈ sessions.activeDevices) :
    sessions.Started sessions.checkHealth.2 device ∨
      sessions.Kept sessions.checkHealth.2 device (sessions.Loses device) := by
  rw [checkHealth_eq]
  rcases revival_cases sessions.backend device with ⟨before, restarted⟩ | ⟨unstarted, stopped⟩
  · -- No device is looked after twice, so nothing stops the session again.
    obtain ⟨front, back, split⟩ := List.append_of_mem held
    have distinct : sessions.activeDevices.Nodup := Keyed.nodup_keys _
    rw [split] at distinct
    have once : device ∉ back := (List.nodup_cons.mp (List.nodup_append.mp distinct).2.1).1
    refine .inl (.of_calls (front.flatMap sessions.backend.revival ++ before)
      (back.flatMap sessions.backend.revival) ?_ ?_)
    · simp [split, restarted]
    · exact fun again => once (mem_revivals.mp again).1
  · refine .inr (.of_calls held rfl (fun started => unstarted (mem_revivals.mp started).2) ?_)
    rw [mem_revivals]
    change device ∈ sessions.activeDevices ∧ .stopped device ∈ sessions.backend.revival device ↔ _
    rw [stopped]
    constructor
    · rintro ⟨_, unhealthy, stops, fails⟩
      exact ⟨held, unhealthy, stops, fails⟩
    · rintro ⟨_, unhealthy, stops, fails⟩
      exact ⟨held, unhealthy, stops, fails⟩

/-- A session that is held after an operation was started by it, or was held before and
stopped only if it was lost. -/
theorem perform_held {operation : Operation}
    (held : device ∈ (sessions.perform operation).activeDevices) :
    sessions.Started (sessions.perform operation) device ∨
      sessions.Kept (sessions.perform operation) device
        (operation = .checkHealth ∧ sessions.Loses device) := by
  cases operation with
  | acquire place =>
      have outcome := acquire_held held
      simpa [perform] using outcome
  | release place =>
      have kept := release_held held
      exact .inr (by simpa [perform] using kept)
  | checkHealth =>
      have counted : sessions.checkHealth.2.activeDevices = sessions.activeDevices := by
        rw [checkHealth_eq]
        rfl
      have outcome := checkHealth_held (counted ▸ held)
      simpa [perform] using outcome
  | setBackend backend =>
      have kept : sessions.Kept { sessions with backend } device False := .of_same held rfl
      exact .inr (by simpa [perform] using kept)

end Steps

section Runs

variable {sessions : IsolationSessions} {operations : List Operation} {operation : Operation}
  {device : String}

theorem run_concat (sessions : IsolationSessions) (operations : List Operation)
    (operation : Operation) :
    sessions.run (operations ++ [operation]) = (sessions.run operations).perform operation :=
  sessions.run_append operations [operation]

theorem Started.not_lost
    (started : (sessions.run operations).Started (sessions.run (operations ++ [operation])) device) :
    ¬sessions.Lost (operations ++ [operation]) device := by
  rintro ⟨before, early, _, same⟩
  have short : before.length ≤ operations.length := by
    have bound := early.length_le
    simp only [List.length_append, List.length_singleton] at bound
    omega
  obtain ⟨rest, rfl⟩ := List.prefix_of_prefix_length_le
    ((List.prefix_append before _).trans early) (List.prefix_append operations _) short
  have fewer := (sessions.run before).starts_le_run rest device
  rw [← run_append] at fewer
  have more := started.more
  omega

theorem Kept.lost_iff
    (kept : (sessions.run operations).Kept (sessions.run (operations ++ [operation])) device
      (operation = .checkHealth ∧ (sessions.run operations).Loses device)) :
    sessions.Lost (operations ++ [operation]) device ↔
      sessions.Lost operations device ∨
        operation = .checkHealth ∧ (sessions.run operations).Loses device := by
  constructor
  · rintro ⟨before, early, loses, same⟩
    rcases List.prefix_concat_iff.mp early with whole | earlier
    · obtain ⟨rfl, last⟩ := List.append_inj' whole rfl
      exact .inr ⟨(List.cons.inj last).1.symm, loses⟩
    · exact .inl ⟨before, earlier, loses, kept.starts_eq.symm.trans same⟩
  · rintro (⟨before, early, loses, same⟩ | ⟨rfl, loses⟩)
    · exact ⟨before, early.trans (List.prefix_append _ _), loses, kept.starts_eq.trans same⟩
    · exact ⟨operations, List.prefix_rfl, loses, kept.starts_eq⟩

/-- A session that is held runs, unless it has been lost. -/
theorem running_iff_not_lost {backend : IsolationBackend}
    (held : device ∈ ((new backend).run operations).activeDevices) :
    ((new backend).run operations).Running device ↔ ¬(new backend).Lost operations device := by
  induction operations using List.reverseRecOn with
  | nil => cases held
  | append_singleton operations operation ih =>
      have last := run_concat (new backend) operations operation
      rcases perform_held (last ▸ held) with started | kept
      · rw [← last] at started
        exact iff_of_true started.running started.not_lost
      · rw [← last] at kept
        rw [kept.running_iff, kept.lost_iff, ih kept.held, not_or]

/-- An acquisition gives out a session that does not run exactly if the session was held
already and had been lost. -/
theorem acquire_not_running_iff (backend : IsolationBackend) (operations : List Operation)
    (device : String) :
    (((new backend).run operations).acquire device).1 = .ok () ∧
        ¬(((new backend).run operations).acquire device).2.Running device ↔
      device ∈ ((new backend).run operations).activeDevices ∧
        (new backend).Lost operations device := by
  rcases ((new backend).run operations).acquire_cases device with
    ⟨count, found, acquired⟩ | ⟨free, fresh⟩
  · have held : device ∈ ((new backend).run operations).activeDevices :=
      mem_activeDevices.mpr ⟨count, found⟩
    rw [acquired]
    change _ ∧ ¬((new backend).run operations).Running device ↔ _
    rw [running_iff_not_lost held, not_not]
    exact and_congr_left fun _ => iff_of_true rfl held
  · have unheld : device ∉ ((new backend).run operations).activeDevices := fun held => by
      obtain ⟨count, found⟩ := mem_activeDevices.mp held
      rw [free] at found
      cases found
    refine iff_of_false ?_ fun given => unheld given.1
    rintro ⟨granted, idle⟩
    rcases fresh with ⟨_, acquired⟩ | ⟨failure, _, refused⟩
    · rw [acquired] at idle
      exact idle ⟨_, [], rfl, List.not_mem_nil⟩
    · rw [refused] at granted
      cases granted

end Runs

/-- A session is started by a server that does as it is told; then it is found unhealthy,
and is stopped but not started again. -/
def restartFailed : IsolationSessions :=
  let working : IsolationBackend :=
    { start := fun _ => .ok ()
      stop := fun _ => .ok ()
      health := fun _ => .ok true }
  let failing : IsolationBackend :=
    { start := fun device => .error { error := .commandFailed "start" device }
      stop := fun _ => .ok ()
      health := fun _ => .ok false }
  (new working).run [.acquire "card0", .setBackend failing, .checkHealth]

/-- The second holder is given a session that does not run. -/
theorem acquire_restartFailed :
    (restartFailed.acquire "card0").1 = .ok () ∧
      ¬(restartFailed.acquire "card0").2.Running "card0" := by
  refine ⟨rfl, ?_⟩
  have asked : (restartFailed.acquire "card0").2.calls =
      [.started "card0", ⟨.health, "card0", false⟩, .stopped "card0", ⟨.start, "card0", false⟩] := by
    decide +kernel
  unfold Running
  rw [asked]
  simp [runsAfter_cons, not_runsAfter_nil, IsolationCall.started, IsolationCall.stopped]

end IsolationSessions

end GpuSharing
