import GpuSharing.Proofs.Isolation.Effects
import Mathlib

/-!
# The protocol with the isolation server

What the server is asked for, device by device: starts that fail until one works, checks of
the session that runs, each with a restart if it tells of an unhealthy session, and a stop when
the last holder lets go; then all over again. Where a trace stands in this is told by
whether the device is held.
-/

set_option autoImplicit false

namespace GpuSharing.IsolationSessions

open Computability

section Runs

/-- The operations of a run, each with the sessions that it finds. -/
def steps (sessions : IsolationSessions) : List Operation → List Step
  | [] => []
  | operation :: rest => ⟨sessions, operation⟩ :: (sessions.perform operation).steps rest

/-- A call to the server, with the operation that makes it. -/
structure Event where
  cause : Step
  call : IsolationCall

/-- All that the server is asked for to do with the device in a run. -/
def trace (sessions : IsolationSessions) (operations : List Operation) (device : String) :
    List Event :=
  (sessions.steps operations).flatMap fun step => (step.calls device).map (Event.mk step)

theorem steps_append (sessions : IsolationSessions) (first second : List Operation) :
    sessions.steps (first ++ second) =
      sessions.steps first ++ (sessions.run first).steps second := by
  induction first generalizing sessions with
  | nil => rfl
  | cons operation rest ih => exact congrArg (List.cons _) (ih (sessions.perform operation))

theorem trace_append (sessions : IsolationSessions) (first second : List Operation)
    (device : String) : sessions.trace (first ++ second) device =
      sessions.trace first device ++ (sessions.run first).trace second device := by
  unfold trace
  rw [steps_append, List.flatMap_append]

theorem trace_singleton (sessions : IsolationSessions) (operation : Operation) (device : String) :
    sessions.trace [operation] device =
      ((Step.mk sessions operation).calls device).map (Event.mk ⟨sessions, operation⟩) := by
  simp [trace, steps]

/-- The trace leaves out no call. -/
theorem calls_trace (sessions : IsolationSessions) (operations : List Operation)
    (device : String) : (sessions.run operations).calls.filter (·.device = device) =
      sessions.calls.filter (·.device = device) ++
        (sessions.trace operations device).map (·.call) := by
  induction operations using List.reverseRecOn with
  | nil => simp [run, trace, steps]
  | append_singleton operations operation ih =>
      rw [run_concat, trace_append, trace_singleton, List.map_append, ← List.append_assoc, ← ih]
      refine (Step.calls_after ⟨sessions.run operations, operation⟩ device).trans ?_
      simp [Function.comp_def]

end Runs

section Grammar

/-- The parts of a session. -/
inductive Part where
  | failedStart
  | start
  | check
  | stop

/-- What the server is asked for in each part, and by which operation. -/
inductive Part.Made (device : String) : Part → Step → List IsolationCall → Prop
  | failedStart {step : Step} {failure : IsolationFailure} (cause : step.cause = .acquire device)
      (before : step.found.count device = 0) (after : step.after.count device = 0)
      (fails : step.found.backend.start device = .error failure) :
      Made device .failedStart step [⟨.start, device, false⟩]
  | start {step : Step} (cause : step.cause = .acquire device)
      (before : step.found.count device = 0) (after : step.after.count device = 1)
      (works : step.found.backend.start device = .ok ()) :
      Made device .start step [⟨.start, device, true⟩]
  | healthy {step : Step} (cause : step.cause = .checkHealth)
      (before : 0 < step.found.count device)
      (after : step.after.count device = step.found.count device)
      (healthy : step.found.backend.health device = .ok true) :
      Made device .check step [⟨.health, device, true⟩]
  | unhealthy {step : Step} (cause : step.cause = .checkHealth)
      (before : 0 < step.found.count device)
      (after : step.after.count device = step.found.count device)
      (unhealthy : step.found.backend.health device ≠ .ok true) :
      Made device .check step [⟨.health, device, false⟩,
        ⟨.stop, device, (step.found.backend.stop device).isOk⟩,
        ⟨.start, device, (step.found.backend.start device).isOk⟩]
  | stop {step : Step} (cause : step.cause = .release device)
      (before : step.found.count device = 1) (after : step.after.count device = 0) :
      Made device .stop step [⟨.stop, device, (step.found.backend.stop device).isOk⟩]

/-- The traces of one part. -/
def Part.traces (part : Part) (device : String) : Language Event :=
  {trace | ∃ step calls, part.Made device step calls ∧ trace = calls.map (Event.mk step)}

/-- The traces of a whole session: starts that fail, one that works, checks, and a stop. -/
def session (device : String) : Language Event :=
  (Part.failedStart.traces device)∗ * Part.start.traces device *
    (Part.check.traces device)∗ * Part.stop.traces device

/-- The traces of one session after another. -/
def protocol (device : String) : Language Event := (session device)∗

/-- The traces between two sessions, while nobody holds the device. -/
def idle (device : String) : Language Event :=
  protocol device * (Part.failedStart.traces device)∗

/-- The traces within a session, while the device is held. -/
def underWay (device : String) : Language Event :=
  idle device * Part.start.traces device * (Part.check.traces device)∗

variable (device : String)

theorem idle_failedStart : idle device * Part.failedStart.traces device ≤ idle device := by
  unfold idle
  rw [mul_assoc]
  gcongr
  exact kstar_mul_le_kstar

theorem idle_start : idle device * Part.start.traces device ≤ underWay device := by
  unfold underWay
  exact le_mul_of_one_le_right' one_le_kstar

theorem underWay_check : underWay device * Part.check.traces device ≤ underWay device := by
  unfold underWay
  rw [mul_assoc _ _∗ _]
  gcongr
  exact kstar_mul_le_kstar

theorem underWay_stop : underWay device * Part.stop.traces device ≤ protocol device :=
  calc underWay device * Part.stop.traces device
      = protocol device * session device := by simp only [underWay, idle, session, mul_assoc]
    _ ≤ protocol device := kstar_mul_le_kstar

theorem protocol_le_idle : protocol device ≤ idle device :=
  le_mul_of_one_le_right' one_le_kstar

/-- What the trace of a device is, when it is held so often or not at all. -/
def standing (device : String) : Option Nat → Language Event
  | none => idle device
  | some _ => underWay device

theorem nil_mem_standing : [] ∈ standing device none :=
  protocol_le_idle device (Language.nil_mem_kstar _)

end Grammar

section Steps

variable {step : Step} {device : String} {trace : List Event}

theorem Part.Made.mem_traces {part : Part} {calls : List IsolationCall}
    (made : part.Made device step calls) : calls.map (Event.mk step) ∈ part.traces device :=
  ⟨step, calls, made, rfl⟩

/-- Whatever an operation does, the trace goes on as the protocol says. -/
theorem Step.standing_after (step : Step) (positive : step.found.counts.get? device ≠ some 0)
    (there : trace ∈ standing device (step.found.counts.get? device)) :
    trace ++ (step.calls device).map (Event.mk step) ∈
      standing device (step.after.counts.get? device) := by
  have before : step.found.count device = (step.found.counts.get? device).getD 0 := rfl
  have after : step.after.count device = (step.after.counts.get? device).getD 0 := rfl
  have effect := step.effect device
  generalize step.found.counts.get? device = held at *
  generalize step.after.counts.get? device = left at *
  generalize step.calls device = calls at *
  generalize cause : step.cause = operation at effect
  cases effect with
  | shared | unheld | dropped | unchecked | answered | elsewhere =>
      rw [List.map_nil, List.append_nil]
      exact there
  | started works =>
      exact idle_start device (Language.append_mem_mul there
        (Part.Made.start cause before after works).mem_traces)
  | unstarted fails =>
      exact idle_failedStart device (Language.append_mem_mul there
        (Part.Made.failedStart cause before after fails).mem_traces)
  | stopped last =>
      have one := eq_one_of_last positive last
      exact protocol_le_idle device (underWay_stop device (Language.append_mem_mul there
        (Part.Made.stop cause (before.trans one) after).mem_traces))
  | @checked count =>
      have held : 0 < count := Nat.pos_of_ne_zero fun zero => positive (congrArg some zero)
      refine underWay_check device (Language.append_mem_mul there ?_)
      unfold IsolationBackend.revival
      split
      · rename_i healthy
        exact (Part.Made.healthy cause (before ▸ held) (after.trans before.symm) healthy).mem_traces
      · rename_i unhealthy
        exact (Part.Made.unhealthy cause (before ▸ held) (after.trans before.symm)
          unhealthy).mem_traces

/-- The operation is an acquisition of the device that succeeds. -/
def Step.acquires (step : Step) (device : String) : Bool :=
  match step.cause with
  | .acquire place => place = device && (step.found.acquire device).1.isOk
  | _ => false

/-- The operation is a release of the device that finds a session. -/
def Step.releases (step : Step) (device : String) : Bool :=
  match step.cause with
  | .release place => place = device && (step.found.counts.get? device).isSome
  | _ => false

theorem acquire_isOk (sessions : IsolationSessions) (device : String) :
    (sessions.acquire device).1.isOk =
      ((sessions.counts.get? device).isSome || (sessions.backend.start device).isOk) := by
  rcases sessions.acquire_cases device with
    ⟨count, held, acquired⟩ | ⟨free, ⟨works, acquired⟩ | ⟨failure, fails, refused⟩⟩
  · rw [acquired, held]
    rfl
  · rw [acquired, free, works]
    rfl
  · rw [refused, free, fails]
    rfl

theorem Step.count_after (step : Step) (positive : step.found.counts.get? device ≠ some 0) :
    step.after.count device + (if step.releases device then 1 else 0) =
      step.found.count device + if step.acquires device then 1 else 0 := by
  have effect := step.effect device
  unfold Step.acquires Step.releases count
  rw [acquire_isOk]
  generalize step.found.counts.get? device = held at *
  generalize step.after.counts.get? device = left at *
  generalize step.calls device = calls at effect
  generalize step.cause = operation at *
  cases effect with
  | shared | unheld | unchecked | checked | answered => simp
  | started works => simp [works, Except.isOk, Except.toBool]
  | unstarted fails => simp [fails, Except.isOk, Except.toBool]
  | dropped more => simpa using Nat.sub_add_cancel (Nat.le_of_lt more)
  | stopped last => simp [eq_one_of_last positive last]
  | elsewhere other =>
      cases operation with
      | acquire place | release place =>
          have elsewhere : place ≠ device := of_decide_eq_false other
          simp [elsewhere]
      | checkHealth | setBackend => cases other

end Steps

section Completion

variable {backend : IsolationBackend} {operations : List Operation} {device : String}

theorem get?_run_ne_zero (backend : IsolationBackend) (operations : List Operation)
    (device : String) : ((new backend).run operations).counts.get? device ≠ some 0 := by
  induction operations using List.reverseRecOn with
  | nil => nofun
  | append_singleton operations operation ih =>
      rw [run_concat]
      exact ((Step.mk _ operation).effect device).ne_zero ih

theorem trace_mem_standing (backend : IsolationBackend) (operations : List Operation)
    (device : String) : (new backend).trace operations device ∈
      standing device (((new backend).run operations).counts.get? device) := by
  induction operations using List.reverseRecOn with
  | nil => exact nil_mem_standing device
  | append_singleton operations operation ih =>
      rw [run_concat, trace_append, trace_singleton]
      exact (Step.mk ((new backend).run operations) operation).standing_after
        (get?_run_ne_zero backend operations device) ih

/-- An operation whose effect is known takes the run one step further. -/
theorem Effect.next {held left : Option Nat} {operation : Operation} {calls : List IsolationCall}
    (effect : Effect ((new backend).run operations).backend device held operation left calls)
    (found : ((new backend).run operations).counts.get? device = held) :
    ((new backend).run (operations ++ [operation])).counts.get? device = left ∧
      (new backend).trace (operations ++ [operation]) device =
        (new backend).trace operations device ++
          calls.map (Event.mk ⟨(new backend).run operations, operation⟩) := by
  subst found
  obtain ⟨after, asked⟩ :=
    effect.unique ((Step.mk ((new backend).run operations) operation).effect device)
  rw [run_concat, trace_append, trace_singleton, asked]
  exact ⟨after, rfl⟩

/-- Once all holders let go, the session is over. -/
theorem completes_of_held {count : Nat}
    (held : ((new backend).run operations).counts.get? device = some (count + 1)) :
    ∃ rest, (new backend).trace (operations ++ rest) device ∈ protocol device := by
  induction count generalizing operations with
  | zero =>
      have there := trace_mem_standing backend operations device
      rw [held] at there
      obtain ⟨left, traced⟩ := (Effect.stopped (Nat.le_refl 1)).next held
      rw [run_concat] at left
      have made : Part.stop.Made device ⟨(new backend).run operations, .release device⟩ _ :=
        .stop rfl (congrArg (·.getD 0) held) (congrArg (·.getD 0) left)
      refine ⟨[.release device], ?_⟩
      rw [traced]
      exact underWay_stop device (Language.append_mem_mul there made.mem_traces)
  | succ count ih =>
      obtain ⟨fewer, _⟩ := (Effect.dropped (by omega)).next held
      obtain ⟨rest, closed⟩ := ih fewer
      exact ⟨.release device :: rest, by simpa using closed⟩

/-- A server that does as it is told. -/
def obliging : IsolationBackend where
  start := fun _ => .ok ()
  stop := fun _ => .ok ()
  health := fun _ => .ok true

/-- Every run can go on in such a way that all sessions of the device are whole. -/
theorem completes (backend : IsolationBackend) (operations : List Operation) (device : String) :
    ∃ rest, (new backend).trace (operations ++ rest) device ∈ protocol device := by
  have positive := get?_run_ne_zero backend operations device
  cases held : ((new backend).run operations).counts.get? device with
  | some count =>
      obtain ⟨fewer, rfl⟩ := Nat.exists_eq_succ_of_ne_zero fun zero =>
        positive (held.trans (congrArg some zero))
      exact completes_of_held held
  | none =>
      obtain ⟨answered, _⟩ :=
        (Effect.answered : Effect _ device none (.setBackend obliging) none []).next held
      have works : ((new backend).run (operations ++ [.setBackend obliging])).backend.start
          device = .ok () := by
        rw [run_concat]
        rfl
      obtain ⟨started, _⟩ := (Effect.started works).next answered
      obtain ⟨rest, closed⟩ := completes_of_held started
      exact ⟨.setBackend obliging :: .acquire device :: rest, by simpa using closed⟩

theorem count_run (backend : IsolationBackend) (operations : List Operation) (device : String) :
    ((new backend).run operations).count device +
        ((new backend).steps operations).countP (·.releases device) =
      ((new backend).steps operations).countP (·.acquires device) := by
  induction operations using List.reverseRecOn with
  | nil => rfl
  | append_singleton operations operation ih =>
      have last := (Step.mk ((new backend).run operations) operation).count_after
        (get?_run_ne_zero backend operations device)
      rw [run_concat, steps_append, List.countP_append, List.countP_append]
      simp only [steps, List.countP_singleton]
      dsimp only [Step.after] at last
      omega

end Completion

/-- What is certain of a device after a run. -/
structure Orderly (backend : IsolationBackend) (operations : List Operation) (device : String) :
    Prop where
  /-- The trace is all that the server has been asked for to do with the device. -/
  calls : ((new backend).trace operations device).map (·.call) =
    ((new backend).run operations).calls.filter (·.device = device)
  /-- The trace is the beginning of whole sessions, which come about if the run goes on. -/
  sessions : ∃ rest,
    (new backend).trace operations device <+: (new backend).trace (operations ++ rest) device ∧
      (new backend).trace (operations ++ rest) device ∈ protocol device
  count : ((new backend).run operations).count device +
      ((new backend).steps operations).countP (·.releases device) =
    ((new backend).steps operations).countP (·.acquires device)
  positive : ((new backend).run operations).counts.get? device ≠ some 0
  checked : ((new backend).run operations).checkHealth.2.counts =
    ((new backend).run operations).counts
  /-- Nothing that is done to other devices matters. -/
  alone : Alike device ((new backend).run operations)
    ((new backend).run (operations.filter (·.concerns device)))

theorem orderly_run (backend : IsolationBackend) (operations : List Operation) (device : String) :
    Orderly backend operations device where
  calls := (calls_trace (new backend) operations device).symm
  sessions := by
    obtain ⟨rest, whole⟩ := completes backend operations device
    exact ⟨rest, ⟨_, (trace_append (new backend) operations rest device).symm⟩, whole⟩
  count := count_run backend operations device
  positive := get?_run_ne_zero backend operations device
  checked := by rw [checkHealth_eq]
  alone := Alike.run ⟨rfl, rfl, rfl⟩ operations

end GpuSharing.IsolationSessions
