import GpuSharing.CommandLine.Options
import GpuSharing.Discovery.Attributes
import GpuSharing.Discovery.Inventory
import GpuSharing.Discovery.Tool
import GpuSharing.Service.Booking

/-!
# Nodes

A node is set up from options: its source of devices, its service with all parts, and
a first search for devices. The search may fail, since it is repeated later.
-/

set_option autoImplicit false

namespace GpuSharing

inductive NodeError where
  | inventoryPathMissing
  deriving DecidableEq, Repr

def NodeError.message : NodeError → String
  | inventoryPathMissing => "--inventory-path is required for the inventory discovery source"

def DiscoveryOptions.source (options : DiscoveryOptions) (host : Host) :
    Except NodeError DiscoverySource :=
  let tool := Tool.source host options.toolPath options.limit
  let attributes := Attributes.source host.files options.attributesRoot
  match options.choice, options.inventoryPath with
  | .automatic, _ => .ok (.fallback tool attributes)
  | .tool, _ => .ok tool
  | .attributes, _ => .ok attributes
  | .inventory, some path => .ok (Inventory.source host.files path)
  | .inventory, none => .error .inventoryPathMissing

/-- The service that options describe, which knows no devices yet. -/
def DaemonOptions.service (options : DaemonOptions) (isolation : Option IsolationSessions) :
    AllocationService :=
  { mode := options.mode
    registry := { config := options.registryConfig }
    fractional := { policy := options.policy }
    partitioned := { policy := options.policy }
    scheduler := { policy := options.policy, config := options.schedulerConfig }
    reservations := { config := options.reservationConfig }
    isolation }

structure Node where
  service : AllocationService
  source : DiscoverySource
  intervals : LoopIntervals

namespace Node

def refresh (node : Node) (clock : Clock) : Except DiscoveryError RefreshSummary × Node :=
  let (result, service) := node.service.refresh node.source.discover clock
  (result, { node with service })

/-- Sets a node up. It has isolation sessions if there is a command that starts them. -/
def build (options : DaemonOptions) (host : Host) (clock : Clock) : Except NodeError Node := do
  let source ← options.discovery.source host
  let config := options.isolationConfig
  let isolation := if config.isEnabled then some { backend := config.backend host } else none
  let node : Node :=
    { service := options.service isolation, source, intervals := options.loopIntervals }
  pure (node.refresh clock).2

end Node

end GpuSharing
