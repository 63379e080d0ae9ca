import GpuSharing.Service.Release
import GpuSharing.Service.Sync
import GpuSharing.Time.Ticker

/-!
# Background loops

The loops of a running node: polling the devices, reconciling the allocators with
what was found, dropping expired allocations, sweeping reservations, passing turns
and looking after isolation sessions.
-/

set_option autoImplicit false

namespace GpuSharing

/-- How often the loops work whose intervals no other configuration holds. -/
structure LoopIntervals where
  expiry : Duration := .ofSeconds 30 0
  rotation : Duration := .ofMilliseconds 50
  health : Duration := .ofSeconds 30 0
  deriving DecidableEq, Repr

structure ServiceLoops where
  /-- The listener that tells when the registry has been refreshed. -/
  subscription : Nat
  poll : Ticker
  expiry : Ticker
  sweep : Ticker
  rotation : Ticker
  health : Ticker
  deriving DecidableEq, Repr

namespace AllocationService

/-- Sets up the loops of a service; all of them are due at once. -/
def startLoops (service : AllocationService) (intervals : LoopIntervals) (now : Instant) :
    ServiceLoops × AllocationService :=
  let (subscription, registry) := service.registry.subscribe
  ({ subscription
     poll := .start service.registry.config.pollInterval now
     expiry := .start intervals.expiry now
     sweep := .start service.reservations.config.sweepInterval now
     rotation := .start intervals.rotation now
     health := .start intervals.health now },
    { service with registry })

/-- Reconciles the allocators if the registry has been refreshed since the last time. -/
def syncIfNotified (service : AllocationService) (subscription : Nat) (now : Instant) :
    AllocationService :=
  let (pending, registry) := service.registry.receive subscription
  let service := { service with registry }
  if pending then (service.sync now).2 else service

def poll (service : AllocationService) (discovery : Discovery) (now : Timestamp) :
    AllocationService :=
  { service with registry := (service.registry.refreshAll discovery now).2 }

def sweep (service : AllocationService) (now : Timestamp) : AllocationService :=
  { service with reservations := (service.reservations.sweep now).2 }

/-- Lets every loop work that is due. -/
def runLoops (service : AllocationService) (loops : ServiceLoops) (discovery : Discovery)
    (clock : Clock) : ServiceLoops × AllocationService :=
  let now := clock.monotonic
  let (poll, service) := loops.poll.run now (·.poll discovery clock.wall) service
  let service := service.syncIfNotified loops.subscription now
  let (expiry, service) := loops.expiry.run now (fun service => (service.cleanup clock.wall).2) service
  let (sweep, service) := loops.sweep.run now (·.sweep clock.wall) service
  let (rotation, service) := loops.rotation.run now (fun service => (service.rotate now).2) service
  let (health, service) := loops.health.run now (·.checkHealth.2) service
  ({ loops with poll, expiry, sweep, rotation, health }, service)

def stopLoops (service : AllocationService) (loops : ServiceLoops) : AllocationService :=
  { service with registry := service.registry.unsubscribe loops.subscription }

end AllocationService

end GpuSharing
