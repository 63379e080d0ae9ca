import GpuSharing.Service.Basic

/-!
# Reconciliation with the registry

After a refresh of the registry the allocators learn which devices there are, how
they are divided and how much memory they have.
-/

set_option autoImplicit false

namespace GpuSharing.AllocationService

/-- Enters one device into the allocators that may serve it. The result tells
whether it was accepted: a device with live allocations keeps its division. -/
def syncDevice (service : AllocationService) (device : Device) (now : Instant) :
    Bool × AllocationService :=
  let id := device.descriptor.device
  let memory := device.descriptor.memoryTotalMib
  match device.descriptor.partition with
  | some config =>
      let (result, partitioned) := service.partitioned.register id memory config
      (result.isOk, { service with partitioned }.syncCount id)
  | none =>
      (true,
        { service with
          fractional := service.fractional.register id memory
          scheduler := service.scheduler.register id memory now }.syncCount id)

def syncEach (service : AllocationService) (now : Instant) :
    List Device → List String × AllocationService
  | [] => ([], service)
  | device :: rest =>
      let (accepted, service) := service.syncDevice device now
      let (rejected, service) := service.syncEach now rest
      (if accepted then rejected else device.descriptor.device :: rejected, service)

/-- Enters all devices of the registry and names those that were not accepted. -/
def sync (service : AllocationService) (now : Instant) : List String × AllocationService :=
  service.syncEach now service.registry.list

/-- Refreshes the registry and reconciles the allocators with it. -/
def refresh (service : AllocationService) (discovery : Discovery) (clock : Clock) :
    Except DiscoveryError RefreshSummary × AllocationService :=
  match service.registry.refreshAll discovery clock.wall with
  | (.error error, registry) => (.error error, { service with registry })
  | (.ok summary, registry) =>
      (.ok summary, ({ service with registry }.sync clock.monotonic).2)

end GpuSharing.AllocationService
