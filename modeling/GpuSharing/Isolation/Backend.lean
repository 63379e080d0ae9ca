import GpuSharing.Time.Timestamp

/-!
# Isolation servers

The external server that keeps the processes of a device apart, and the ways in
which talking to it fails.
-/

set_option autoImplicit false

namespace GpuSharing

inductive IsolationAction where
  | start
  | stop
  | health
  deriving DecidableEq, Repr

def IsolationAction.name : IsolationAction → String
  | start => "start"
  | stop => "stop"
  | health => "health"

inductive IsolationError where
  | commandFailed (command reason : String)
  | timeout (command : String) (limit : Duration)
  | notConfigured (action : IsolationAction)
  deriving DecidableEq, Repr

namespace IsolationError

def kind : IsolationError → String
  | commandFailed _ _ => "CommandFailed"
  | timeout _ _ => "Timeout"
  | notConfigured _ => "NotConfigured"

def message : IsolationError → String
  | commandFailed command reason => s!"isolation command `{command}` failed: {reason}"
  | timeout command limit => s!"isolation command `{command}` timed out after {limit.text}"
  | notConfigured action => s!"isolation {action.name} is not configured"

end IsolationError

structure IsolationFailure where
  error : IsolationError
  notes : List String := []
  deriving DecidableEq, Repr

/-- How the server answers, by device. -/
structure IsolationBackend where
  start : String → Except IsolationFailure Unit
  stop : String → Except IsolationFailure Unit
  /-- A session that is not healthy exists but should be restarted. -/
  health : String → Except IsolationFailure Bool

end GpuSharing
