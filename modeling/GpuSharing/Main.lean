import GpuSharing.CommandLine.Summary
import GpuSharing.Host.Rehearsal
import GpuSharing.Json.Writer
import GpuSharing.Service.Node
import GpuSharing.Status

/-!
# The program

A search prints its report. The daemon prints its configuration and the state in which
it would start. Nothing is run on the host: all that is read is the inventory.
-/

set_option autoImplicit false

namespace GpuSharing.Program

/-- The variables that settings can come from, as far as they are set. -/
def readEnvironment : IO (String → Option String) := do
  let mut found : List (String × String) := []
  for setting in DaemonOptions.settings do
    if let some value ← IO.getEnv setting.envName then
      found := (setting.envName, value) :: found
  let entries := found
  pure fun name => entries.lookup name

/-- A host with the inventory that options name, if it can be read. -/
def readHost (options : DiscoveryOptions) : IO Host := do
  match options.inventoryPath with
  | none => pure (.rehearsed .empty)
  | some path =>
      try
        let content ← IO.FS.readFile path
        pure (.rehearsed (.ofFiles [(path, .file (some content))]))
      catch _ => pure (.rehearsed .empty)

def fail (message : String) : IO UInt32 := do
  IO.eprintln message
  pure 1

def discover (options : DiscoveryOptions) (pretty : Bool) : IO UInt32 := do
  match options.source (← readHost options) with
  | .error error => fail error.message
  | .ok source =>
      match source.discover with
      | .error error => fail error.message
      | .ok report =>
          IO.println (if pretty then report.toJson.pretty else report.toJson.compact)
          pure 0

def daemon (options : DaemonOptions) : IO UInt32 := do
  match Node.build options (← readHost options.discovery) ⟨.epoch, ⟨0⟩⟩ with
  | .error error => fail error.message
  | .ok node =>
      IO.println (Json.object
        [("configuration", .of options), ("state", node.service.status)]).pretty
      pure 0

end GpuSharing.Program

open GpuSharing in
def main (arguments : List String) : IO UInt32 := do
  match Command.read (← Program.readEnvironment) arguments with
  | .error error => Program.fail error.kind
  | .ok (.daemon options) => Program.daemon options
  | .ok (.discover options pretty) => Program.discover options pretty
