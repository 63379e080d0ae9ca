import GpuSharing.Isolation.Session

/-!
# Runs of isolation sessions

The ways in which sessions are used, one after another, and what each of them asks the
server for and does to the number of holders of a device. The server may answer each time
in another way.
-/

set_option autoImplicit false

namespace GpuSharing

/-- What a health check asks the server for to look after one session. -/
def IsolationBackend.revival (backend : IsolationBackend) (device : String) :
    List IsolationCall :=
  match backend.health device with
  | .ok true => [⟨.health, device, true⟩]
  | _ =>
      [⟨.health, device, false⟩, ⟨.stop, device, (backend.stop device).isOk⟩,
        ⟨.start, device, (backend.start device).isOk⟩]

theorem IsolationBackend.device_revival (backend : IsolationBackend) {device : String}
    {call : IsolationCall} (member : call ∈ backend.revival device) : call.device = device := by
  unfold revival at member
  split at member
  · rw [List.mem_singleton.mp member]
  · simp only [List.mem_cons, List.not_mem_nil, or_false] at member
    rcases member with rfl | rfl | rfl
    · rfl
    · rfl
    · rfl

namespace IsolationSessions

/-- Sessions that nobody holds yet. -/
def new (backend : IsolationBackend) : IsolationSessions := { backend }

inductive Operation where
  | acquire (device : String)
  | release (device : String)
  | checkHealth
  /-- From now on the server answers differently. -/
  | setBackend (backend : IsolationBackend)

def perform (sessions : IsolationSessions) : Operation → IsolationSessions
  | .acquire device => (sessions.acquire device).2
  | .release device => (sessions.release device).2
  | .checkHealth => sessions.checkHealth.2
  | .setBackend backend => { sessions with backend }

def run (sessions : IsolationSessions) (operations : List Operation) : IsolationSessions :=
  operations.foldl perform sessions

theorem run_append (sessions : IsolationSessions) (first second : List Operation) :
    sessions.run (first ++ second) = (sessions.run first).run second :=
  List.foldl_append

section Steps

variable (sessions : IsolationSessions) (device : String)

theorem mem_activeDevices {sessions : IsolationSessions} {device : String} :
    device ∈ sessions.activeDevices ↔ ∃ count, sessions.counts.get? device = some count :=
  Keyed.mem_keys

theorem acquire_cases :
    (∃ count, sessions.counts.get? device = some count ∧
      sessions.acquire device = (.ok (), sessions.setCount device (count + 1))) ∨
    sessions.counts.get? device = none ∧
      ((sessions.backend.start device = .ok () ∧ sessions.acquire device =
          (.ok (), (sessions.record .start device true).setCount device 1)) ∨
        ∃ failure, sessions.backend.start device = .error failure ∧
          sessions.acquire device = (.error failure, sessions.record .start device false)) := by
  unfold acquire start
  cases held : sessions.counts.get? device with
  | some count => exact .inl ⟨count, rfl, rfl⟩
  | none =>
      cases started : sessions.backend.start device with
      | ok => exact .inr ⟨rfl, .inl ⟨rfl, rfl⟩⟩
      | error failure => exact .inr ⟨rfl, .inr ⟨failure, rfl, rfl⟩⟩

theorem release_cases :
    (sessions.counts.get? device = none ∧ sessions.release device = (.ok (), sessions)) ∨
    ∃ count, sessions.counts.get? device = some count ∧
      ((count ≤ 1 ∧ (sessions.release device).2 =
          { sessions with counts := sessions.counts.erase device }.record .stop device
            (sessions.backend.stop device).isOk) ∨
        1 < count ∧ sessions.release device = (.ok (), sessions.setCount device (count - 1))) := by
  unfold release
  cases held : sessions.counts.get? device with
  | none => exact .inl ⟨rfl, rfl⟩
  | some count =>
      refine .inr ⟨count, rfl, ?_⟩
      by_cases last : count ≤ 1
      · simp only [last, if_true]
        exact .inl ⟨trivial, rfl⟩
      · simp only [last, if_false]
        exact .inr ⟨Nat.lt_of_not_le last, trivial⟩

theorem revive_eq : (sessions.revive device).2 =
    { sessions with calls := sessions.calls ++ sessions.backend.revival device } := by
  unfold revive isHealthy IsolationBackend.revival
  cases sessions.backend.health device with
  | error failure => simp [stop, start, record]
  | ok healthy =>
      cases healthy with
      | true => rfl
      | false => simp [stop, start, record]

theorem reviveAll_eq (devices : List String) : (sessions.reviveAll devices).2 =
    { sessions with calls := sessions.calls ++ devices.flatMap sessions.backend.revival } := by
  induction devices generalizing sessions with
  | nil => simp [reviveAll]
  | cons device rest ih =>
      unfold reviveAll
      dsimp only
      rw [ih, revive_eq]
      simp

/-- A health check changes nothing but the server. -/
theorem checkHealth_eq : sessions.checkHealth.2 =
    { sessions with
      calls := sessions.calls ++ sessions.activeDevices.flatMap sessions.backend.revival } :=
  sessions.reviveAll_eq sessions.activeDevices

end Steps

section Holders

/-! How many hold the session of a device is counted as long as there are any. -/

/-- The counts of the sessions are right, each device being held by so many. -/
def HeldBy (sessions : IsolationSessions) (holders : String → Nat) : Prop :=
  ∀ device, sessions.counts.get? device =
    if holders device = 0 then none else some (holders device)

variable {sessions : IsolationSessions} {holders : String → Nat}

theorem HeldBy.count_eq (held : sessions.HeldBy holders) (device : String) :
    sessions.count device = holders device := by
  unfold count
  rw [held device]
  split
  · rename_i none
    exact none.symm
  · rfl

theorem HeldBy.mem_activeDevices (held : sessions.HeldBy holders) (device : String) :
    device ∈ sessions.activeDevices ↔ 0 < holders device := by
  rw [IsolationSessions.mem_activeDevices, held device]
  by_cases none : holders device = 0
  · simp [none]
  · simp [none, Nat.pos_of_ne_zero none]

theorem HeldBy.congr {other : IsolationSessions} (held : sessions.HeldBy holders)
    (same : other.counts = sessions.counts) : other.HeldBy holders := by
  unfold HeldBy
  rw [same]
  exact held

theorem HeldBy.eq_of_some (held : sessions.HeldBy holders) {device : String} {count : Nat}
    (found : sessions.counts.get? device = some count) : holders device = count := by
  rw [← held.count_eq device, IsolationSessions.count, found, Option.getD_some]

theorem HeldBy.eq_of_none (held : sessions.HeldBy holders) {device : String}
    (free : sessions.counts.get? device = none) : holders device = 0 := by
  rw [← held.count_eq device, IsolationSessions.count, free, Option.getD_none]

theorem HeldBy.setCount (held : sessions.HeldBy holders) {device : String} {count : Nat}
    {others : String → Nat} (positive : 0 < count) (here : others device = count)
    (elsewhere : ∀ other, other ≠ device → others other = holders other) :
    (sessions.setCount device count).HeldBy others := by
  intro other
  unfold IsolationSessions.setCount
  dsimp only
  rw [Keyed.get?_insert]
  by_cases same : other = device
  · rw [if_pos same, same, here, if_neg (Nat.ne_of_gt positive)]
  · rw [if_neg same, elsewhere other same]
    exact held other

/-- An acquisition adds one holder of the device, unless it fails. -/
theorem HeldBy.acquire_cases (held : sessions.HeldBy holders) (device : String) :
    (∃ next, sessions.acquire device = (.ok (), next) ∧
      next.HeldBy fun other => holders other + if other = device then 1 else 0) ∨
    ∃ failure next, sessions.acquire device = (.error failure, next) ∧ next.HeldBy holders := by
  have elsewhere (other : String) (differs : other ≠ device) :
      holders other + (if other = device then 1 else 0) = holders other := by simp [differs]
  rcases sessions.acquire_cases device with
    ⟨count, found, acquired⟩ | ⟨free, ⟨_, acquired⟩ | ⟨failure, _, refused⟩⟩
  · exact .inl ⟨_, acquired,
      held.setCount (Nat.succ_pos count) (by simp [held.eq_of_some found]) elsewhere⟩
  · have recorded : (sessions.record .start device true).HeldBy holders := held.congr rfl
    exact .inl ⟨_, acquired,
      recorded.setCount Nat.one_pos (by simp [held.eq_of_none free]) elsewhere⟩
  · exact .inr ⟨failure, _, refused, held.congr rfl⟩

/-- A release takes one holder of the device away, even if the server fails. -/
theorem HeldBy.release (held : sessions.HeldBy holders) (device : String) :
    (sessions.release device).2.HeldBy fun other =>
      holders other - if other = device then 1 else 0 := by
  have elsewhere (other : String) (differs : other ≠ device) :
      holders other - (if other = device then 1 else 0) = holders other := by simp [differs]
  rcases sessions.release_cases device with
    ⟨free, released⟩ | ⟨count, found, ⟨last, released⟩ | ⟨more, released⟩⟩
  · rw [released]
    intro other
    rw [held other]
    by_cases here : other = device
    · simp [here, held.eq_of_none free]
    · simp [here]
  · rw [released]
    intro other
    change (sessions.counts.erase device).get? other = _
    rw [Keyed.get?_erase]
    by_cases here : other = device
    · have gone : holders device - 1 = 0 := by
        rw [held.eq_of_some found]
        exact Nat.sub_eq_zero_of_le last
      simp [here, gone]
    · simp [here, held other]
  · rw [released]
    exact held.setCount (Nat.sub_pos_of_lt more) (by simp [held.eq_of_some found]) elsewhere

theorem HeldBy.checkHealth (held : sessions.HeldBy holders) :
    sessions.checkHealth.2.HeldBy holders := by
  rw [checkHealth_eq]
  exact held.congr rfl

end Holders

end IsolationSessions

end GpuSharing
