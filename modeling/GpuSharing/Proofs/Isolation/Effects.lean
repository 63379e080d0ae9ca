import GpuSharing.Proofs.Isolation.Running

/-!
# What an operation does to one device

The count of the holders of a device and the calls to the server are decided together. What an
operation does to one device is said once, for both; it depends on the server and on how
often the device is held, and so on nothing that is done to other devices.
-/

set_option autoImplicit false

namespace GpuSharing.IsolationSessions

/-- The operation may do something to the device. -/
def Operation.concerns (device : String) : Operation → Bool
  | .acquire place | .release place => place = device
  | .checkHealth | .setBackend _ => true

section Effects

/-- What an operation does to a device that is held so often, or not at all: how often it is
held afterwards, and what the server is asked for. -/
inductive Effect (backend : IsolationBackend) (device : String) :
    Option Nat → Operation → Option Nat → List IsolationCall → Prop
  | shared {count : Nat} :
      Effect backend device (some count) (.acquire device) (some (count + 1)) []
  | started (works : backend.start device = .ok ()) :
      Effect backend device none (.acquire device) (some 1) [.started device]
  | unstarted {failure : IsolationFailure} (fails : backend.start device = .error failure) :
      Effect backend device none (.acquire device) none [⟨.start, device, false⟩]
  | unheld : Effect backend device none (.release device) none []
  | dropped {count : Nat} (more : 1 < count) :
      Effect backend device (some count) (.release device) (some (count - 1)) []
  | stopped {count : Nat} (last : count ≤ 1) : Effect backend device (some count)
      (.release device) none [⟨.stop, device, (backend.stop device).isOk⟩]
  | unchecked : Effect backend device none .checkHealth none []
  | checked {count : Nat} :
      Effect backend device (some count) .checkHealth (some count) (backend.revival device)
  | answered {held : Option Nat} {other : IsolationBackend} :
      Effect backend device held (.setBackend other) held []
  | elsewhere {held : Option Nat} {operation : Operation}
      (other : operation.concerns device = false) : Effect backend device held operation held []

variable {backend : IsolationBackend} {device : String} {held left : Option Nat}
  {operation : Operation} {calls : List IsolationCall}

theorem Effect.unique {leftAgain : Option Nat} {callsAgain : List IsolationCall}
    (effect : Effect backend device held operation left calls)
    (again : Effect backend device held operation leftAgain callsAgain) :
    leftAgain = left ∧ callsAgain = calls := by
  cases effect with
  | shared | unheld | unchecked | checked | answered =>
      cases again with
      | elsewhere other => simp [Operation.concerns] at other
      | _ => exact ⟨rfl, rfl⟩
  | started works =>
      cases again with
      | started => exact ⟨rfl, rfl⟩
      | unstarted fails => cases works.symm.trans fails
      | elsewhere other => simp [Operation.concerns] at other
  | unstarted fails =>
      cases again with
      | started works => cases works.symm.trans fails
      | unstarted => exact ⟨rfl, rfl⟩
      | elsewhere other => simp [Operation.concerns] at other
  | dropped more =>
      cases again with
      | dropped => exact ⟨rfl, rfl⟩
      | stopped last => exact absurd last (Nat.not_le_of_lt more)
      | elsewhere other => simp [Operation.concerns] at other
  | stopped last =>
      cases again with
      | dropped more => exact absurd last (Nat.not_le_of_lt more)
      | stopped => exact ⟨rfl, rfl⟩
      | elsewhere other => simp [Operation.concerns] at other
  | elsewhere other =>
      cases again with
      | answered | elsewhere => exact ⟨rfl, rfl⟩
      | _ => simp [Operation.concerns] at other

theorem Effect.ne_zero (effect : Effect backend device held operation left calls)
    (positive : held ≠ some 0) : left ≠ some 0 := by
  cases effect with
  | shared | started => simp
  | unstarted | unheld | stopped | unchecked => nofun
  | dropped more =>
      intro zero
      have none_left := Option.some.inj zero
      omega
  | checked | answered | elsewhere => exact positive

/-- A count is never zero, so the last holder is the only one. -/
theorem eq_one_of_last {count : Nat} (positive : some count ≠ some 0) (last : count ≤ 1) :
    count = 1 := by
  have held : count ≠ 0 := fun zero => positive (congrArg some zero)
  omega

end Effects

/-- An operation of a run, with the sessions that it finds. -/
structure Step where
  found : IsolationSessions
  cause : Operation

namespace Step

def after (step : Step) : IsolationSessions := step.found.perform step.cause

/-- What the operation asks the server for to do with the device. -/
def calls (step : Step) (device : String) : List IsolationCall :=
  (step.after.calls.drop step.found.calls.length).filter (·.device = device)

theorem calls_eq (step : Step) {since : List IsolationCall}
    (asked : step.after.calls = step.found.calls ++ since) (device : String) :
    step.calls device = since.filter (·.device = device) := by
  rw [calls, asked, List.drop_left]

theorem calls_after (step : Step) (device : String) :
    step.after.calls.filter (·.device = device) =
      step.found.calls.filter (·.device = device) ++ step.calls device := by
  obtain ⟨since, asked⟩ := calls_perform step.found step.cause
  rw [step.calls_eq asked, ← List.filter_append]
  exact congrArg _ asked

end Step

theorem counts_record (sessions : IsolationSessions) (action : IsolationAction) (device : String)
    (succeeded : Bool) : (sessions.record action device succeeded).counts = sessions.counts := rfl

theorem get?_setCount_self (sessions : IsolationSessions) (device : String) (count : Nat) :
    (sessions.setCount device count).counts.get? device = some count := by
  simp [setCount]

theorem get?_setCount_of_ne {sessions : IsolationSessions} {device place : String} {count : Nat}
    (elsewhere : device ≠ place) :
    (sessions.setCount place count).counts.get? device = sessions.counts.get? device := by
  unfold setCount
  dsimp only
  rw [Keyed.get?_insert, if_neg elsewhere]

/-- Of all the sessions that are looked after, one is that of the device, if it is held. -/
theorem filter_revivals (backend : IsolationBackend) (device : String) {devices : List String}
    (distinct : devices.Nodup) : (devices.flatMap backend.revival).filter (·.device = device) =
      if device ∈ devices then backend.revival device else [] := by
  induction devices with
  | nil => rfl
  | cons first rest ih =>
      obtain ⟨once, others⟩ := List.nodup_cons.mp distinct
      rw [List.flatMap_cons, List.filter_append, ih others]
      by_cases here : first = device
      · subst here
        rw [if_neg once, if_pos List.mem_cons_self, List.append_nil]
        exact List.filter_eq_self.mpr fun call asked =>
          decide_eq_true (backend.device_revival asked)
      · have passed : (backend.revival first).filter (·.device = device) = [] :=
          List.filter_eq_nil_iff.mpr fun call asked same =>
            here ((backend.device_revival asked).symm.trans (of_decide_eq_true same))
        simp [passed, Ne.symm here]

section Outcomes

variable {sessions : IsolationSessions} {operation : Operation} {device : String}

/-- What a step does can be read off what it leaves and records. -/
theorem Effect.of_after {after : IsolationSessions} (since : List IsolationCall)
    (left : sessions.perform operation = after) (asked : after.calls = sessions.calls ++ since)
    (effect : Effect sessions.backend device (sessions.counts.get? device) operation
      (after.counts.get? device) (since.filter (·.device = device))) :
    Effect sessions.backend device (sessions.counts.get? device) operation
      ((Step.mk sessions operation).after.counts.get? device)
      ((Step.mk sessions operation).calls device) := by
  subst left
  have recorded : (Step.mk sessions operation).calls device =
      since.filter (·.device = device) := Step.calls_eq ⟨sessions, operation⟩ asked device
  rw [recorded]
  exact effect

theorem effect_acquire (place : String) :
    Effect sessions.backend device (sessions.counts.get? device) (.acquire place)
      ((Step.mk sessions (.acquire place)).after.counts.get? device)
      ((Step.mk sessions (.acquire place)).calls device) := by
  have elsewhere (other : place ≠ device) : (Operation.acquire place).concerns device = false :=
    decide_eq_false other
  rcases sessions.acquire_cases place with
    ⟨count, held, acquired⟩ | ⟨free, ⟨works, acquired⟩ | ⟨failure, fails, refused⟩⟩
  · refine .of_after [] (congrArg Prod.snd acquired) (List.append_nil _).symm ?_
    by_cases here : place = device
    · subst here
      rw [get?_setCount_self, held]
      exact .shared
    · rw [get?_setCount_of_ne (Ne.symm here)]
      exact .elsewhere (elsewhere here)
  · refine .of_after _ (congrArg Prod.snd acquired) rfl ?_
    by_cases here : place = device
    · subst here
      rw [get?_setCount_self, free]
      simpa [IsolationCall.started] using Effect.started works
    · rw [get?_setCount_of_ne (Ne.symm here), counts_record]
      simpa [here] using Effect.elsewhere (elsewhere here)
  · refine .of_after _ (congrArg Prod.snd refused) rfl ?_
    rw [counts_record]
    by_cases here : place = device
    · subst here
      rw [free]
      simpa using Effect.unstarted fails
    · simpa [here] using Effect.elsewhere (elsewhere here)

theorem effect_release (place : String) :
    Effect sessions.backend device (sessions.counts.get? device) (.release place)
      ((Step.mk sessions (.release place)).after.counts.get? device)
      ((Step.mk sessions (.release place)).calls device) := by
  have elsewhere (other : place ≠ device) : (Operation.release place).concerns device = false :=
    decide_eq_false other
  rcases sessions.release_cases place with
    ⟨free, released⟩ | ⟨count, held, ⟨last, released⟩ | ⟨more, released⟩⟩
  · refine .of_after [] (congrArg Prod.snd released) (List.append_nil _).symm ?_
    by_cases here : place = device
    · subst here
      rw [free]
      exact .unheld
    · exact .elsewhere (elsewhere here)
  · refine .of_after _ released rfl ?_
    change Effect _ _ _ _ ((sessions.counts.erase place).get? device) _
    rw [Keyed.get?_erase]
    by_cases here : place = device
    · subst here
      rw [if_pos rfl, held]
      simpa using Effect.stopped last
    · rw [if_neg (Ne.symm here)]
      simpa [here] using Effect.elsewhere (elsewhere here)
  · refine .of_after [] (congrArg Prod.snd released) (List.append_nil _).symm ?_
    by_cases here : place = device
    · subst here
      rw [get?_setCount_self, held]
      exact .dropped more
    · rw [get?_setCount_of_ne (Ne.symm here)]
      exact .elsewhere (elsewhere here)

theorem effect_checkHealth :
    Effect sessions.backend device (sessions.counts.get? device) .checkHealth
      ((Step.mk sessions .checkHealth).after.counts.get? device)
      ((Step.mk sessions .checkHealth).calls device) := by
  have distinct : sessions.activeDevices.Nodup := Keyed.nodup_keys _
  refine .of_after _ sessions.checkHealth_eq rfl ?_
  dsimp only
  rw [filter_revivals _ _ distinct]
  cases held : sessions.counts.get? device with
  | none =>
      have passed : device ∉ sessions.activeDevices := fun active => by
        obtain ⟨count, found⟩ := mem_activeDevices.mp active
        cases held.symm.trans found
      rw [if_neg passed]
      exact .unchecked
  | some count =>
      rw [if_pos (mem_activeDevices.mpr ⟨count, held⟩)]
      exact .checked

end Outcomes

/-- What a step does to a device is decided by the server, the operation, and how often the
device is held. -/
theorem Step.effect (step : Step) (device : String) :
    Effect step.found.backend device (step.found.counts.get? device) step.cause
      (step.after.counts.get? device) (step.calls device) := by
  obtain ⟨sessions, operation⟩ := step
  cases operation with
  | acquire place => exact effect_acquire place
  | release place => exact effect_release place
  | checkHealth => exact effect_checkHealth
  | setBackend backend =>
      exact .of_after [] rfl (List.append_nil _).symm .answered

section Noninterference

/-- The sessions agree in all that matters to the device. -/
structure Alike (device : String) (first second : IsolationSessions) : Prop where
  backend : first.backend = second.backend
  held : first.counts.get? device = second.counts.get? device
  calls : first.calls.filter (·.device = device) = second.calls.filter (·.device = device)

variable {first second : IsolationSessions} {device : String} {operation : Operation}

theorem backend_perform (sessions : IsolationSessions) (operation : Operation) :
    (sessions.perform operation).backend =
      match operation with
      | .setBackend backend => backend
      | _ => sessions.backend := by
  cases operation with
  | acquire place =>
      rcases sessions.acquire_cases place with
        ⟨count, _, acquired⟩ | ⟨_, ⟨_, acquired⟩ | ⟨failure, _, refused⟩⟩
      · exact congrArg (·.2.backend) acquired
      · exact congrArg (·.2.backend) acquired
      · exact congrArg (·.2.backend) refused
  | release place =>
      rcases sessions.release_cases place with
        ⟨_, released⟩ | ⟨count, _, ⟨_, released⟩ | ⟨_, released⟩⟩
      · exact congrArg (·.2.backend) released
      · exact congrArg (·.backend) released
      · exact congrArg (·.2.backend) released
  | checkHealth => exact congrArg (·.backend) sessions.checkHealth_eq
  | setBackend backend => rfl

theorem Alike.perform (alike : Alike device first second) (operation : Operation) :
    Alike device (first.perform operation) (second.perform operation) := by
  have effect := (Step.mk first operation).effect device
  have again := (Step.mk second operation).effect device
  dsimp only at effect again
  rw [← alike.backend, ← alike.held] at again
  obtain ⟨left, asked⟩ := effect.unique again
  refine ⟨?_, left.symm, ?_⟩
  · rw [backend_perform, backend_perform, alike.backend]
  · refine (Step.calls_after ⟨first, operation⟩ device).trans
      (.trans ?_ (Step.calls_after ⟨second, operation⟩ device).symm)
    rw [alike.calls, asked]

theorem Alike.skip (alike : Alike device first second)
    (other : operation.concerns device = false) :
    Alike device (first.perform operation) second := by
  obtain ⟨left, asked⟩ :=
    (Effect.elsewhere other).unique ((Step.mk first operation).effect device)
  refine ⟨?_, left.trans alike.held, ?_⟩
  · rw [backend_perform, ← alike.backend]
    cases operation with
    | setBackend backend => cases other
    | _ => rfl
  · refine (Step.calls_after ⟨first, operation⟩ device).trans ?_
    rw [asked, List.append_nil, alike.calls]

/-- What becomes of a device is the same without the acquisitions and releases of others. -/
theorem Alike.run (alike : Alike device first second) (operations : List Operation) :
    Alike device (first.run operations)
      (second.run (operations.filter (·.concerns device))) := by
  induction operations generalizing first second with
  | nil => exact alike
  | cons operation rest ih =>
      cases concerned : operation.concerns device with
      | true =>
          rw [List.filter_cons_of_pos concerned]
          exact ih (alike.perform operation)
      | false =>
          rw [List.filter_cons_of_neg (by simp [concerned])]
          exact ih (alike.skip concerned)

end Noninterference

end GpuSharing.IsolationSessions
