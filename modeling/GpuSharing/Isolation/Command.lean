import GpuSharing.Host.FileTree
import GpuSharing.Isolation.Backend
import GpuSharing.Text.Blank

/-!
# Isolation by commands

An isolation server that is driven by command lines. No shell is involved: a line is
split at blanks, and the device is its last argument.
-/

set_option autoImplicit false

namespace GpuSharing

structure IsolationConfig where
  start : Option String := none
  stop : Option String := none
  health : Option String := none
  limit : Duration := .ofSeconds 10 0
  healthInterval : Duration := .ofSeconds 30 0
  deriving DecidableEq, Repr

namespace IsolationConfig

/-- Sessions can be had as soon as they can be started. -/
def isEnabled (config : IsolationConfig) : Bool := config.start.isSome

def run (config : IsolationConfig) (host : Host) (action : IsolationAction) (line device : String) :
    Except IsolationFailure Bool :=
  let words := Text.words line
  let late : IsolationFailure := { error := .timeout line config.limit }
  if words.isEmpty then .error { error := .notConfigured action }
  else match host.run (words ++ [device]) with
    | .notStarted error => .error { error := .commandFailed line error.message }
    | .hung => .error late
    | .exited status _ _ => if config.limit ≤ .zero then .error late else .ok (status = 0)
    | .killed _ _ => if config.limit ≤ .zero then .error late else .ok false

def runChecked (config : IsolationConfig) (host : Host) (action : IsolationAction)
    (line device : String) : Except IsolationFailure Unit := do
  if ← config.run host action line device then pure ()
  else
    .error
      { error := .commandFailed line "non-zero exit status"
        notes := [s!"device: {device}"] }

/-- The server behind the commands. A session that nothing stops is stopped by nothing,
and one that nothing checks is healthy. -/
def backend (config : IsolationConfig) (host : Host) : IsolationBackend :=
  { start := fun device =>
      match config.start with
      | some line => config.runChecked host .start line device
      | none => .error { error := .notConfigured .start }
    stop := fun device =>
      match config.stop with
      | some line => config.runChecked host .stop line device
      | none => .ok ()
    health := fun device =>
      match config.health with
      | some line => config.run host .health line device
      | none => .ok true }

end IsolationConfig

end GpuSharing
