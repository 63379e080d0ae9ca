import GpuSharing.Isolation.Backend
import GpuSharing.Keyed

/-!
# Isolation sessions

A device has one session, counted by the allocations that hold it: the first one
starts it and the last one stops it. All calls to the server are recorded.
-/

set_option autoImplicit false

namespace GpuSharing

structure IsolationCall where
  action : IsolationAction
  device : String
  /-- A start or a stop that worked, or a check that found a healthy session. -/
  succeeded : Bool
  deriving DecidableEq, Repr

def IsolationCall.text (call : IsolationCall) : String := s!"{call.action.name} {call.device}"

structure IsolationSessions where
  backend : IsolationBackend
  /-- How many allocations hold the session of a device; never zero. -/
  counts : Keyed Nat := .empty
  calls : List IsolationCall := []

namespace IsolationSessions

def count (sessions : IsolationSessions) (device : String) : Nat :=
  (sessions.counts.get? device).getD 0

def activeDevices (sessions : IsolationSessions) : List String := sessions.counts.keys

def record (sessions : IsolationSessions) (action : IsolationAction) (device : String)
    (succeeded : Bool) : IsolationSessions :=
  { sessions with calls := sessions.calls ++ [{ action, device, succeeded }] }

def setCount (sessions : IsolationSessions) (device : String) (count : Nat) : IsolationSessions :=
  { sessions with counts := sessions.counts.insert device count }

def start (sessions : IsolationSessions) (device : String) :
    Except IsolationFailure Unit × IsolationSessions :=
  let result := sessions.backend.start device
  (result, sessions.record .start device result.isOk)

def stop (sessions : IsolationSessions) (device : String) :
    Except IsolationFailure Unit × IsolationSessions :=
  let result := sessions.backend.stop device
  (result, sessions.record .stop device result.isOk)

/-- Whether the session of a device is healthy. A check that fails counts as no. -/
def isHealthy (sessions : IsolationSessions) (device : String) : Bool × IsolationSessions :=
  let healthy := match sessions.backend.health device with
    | .ok healthy => healthy
    | .error _ => false
  (healthy, sessions.record .health device healthy)

def takeCalls (sessions : IsolationSessions) : List IsolationCall × IsolationSessions :=
  (sessions.calls, { sessions with calls := [] })

/-- Holds the session of a device, which is started if it has none. A session that
cannot be started is not held. -/
def acquire (sessions : IsolationSessions) (device : String) :
    Except IsolationFailure Unit × IsolationSessions :=
  match sessions.counts.get? device with
  | some count => (.ok (), sessions.setCount device (count + 1))
  | none =>
      match sessions.start device with
      | (.error failure, sessions) => (.error failure, sessions)
      | (.ok (), sessions) => (.ok (), sessions.setCount device 1)

/-- Lets go of the session of a device. The last holder stops it, and it is gone
even if stopping fails. -/
def release (sessions : IsolationSessions) (device : String) :
    Except IsolationFailure Unit × IsolationSessions :=
  match sessions.counts.get? device with
  | none => (.ok (), sessions)
  | some count =>
      if count ≤ 1 then
        { sessions with counts := sessions.counts.erase device }.stop device
      else (.ok (), sessions.setCount device (count - 1))

/-- Restarts the session of a device unless it is healthy, and tells whether it
runs again. -/
def revive (sessions : IsolationSessions) (device : String) : Bool × IsolationSessions :=
  match sessions.isHealthy device with
  | (true, sessions) => (false, sessions)
  | (false, sessions) =>
      let (started, sessions) := (sessions.stop device).2.start device
      (started.isOk, sessions)

/-- Looks after one device after another and names those that were restarted. -/
def reviveAll (sessions : IsolationSessions) : List String → List String × IsolationSessions
  | [] => ([], sessions)
  | device :: rest =>
      let (restarted, sessions) := sessions.revive device
      let (others, sessions) := sessions.reviveAll rest
      (if restarted then device :: others else others, sessions)

/-- Restarts every session that is not healthy and names those that run again. -/
def checkHealth (sessions : IsolationSessions) : List String × IsolationSessions :=
  sessions.reviveAll sessions.activeDevices

end IsolationSessions

end GpuSharing
