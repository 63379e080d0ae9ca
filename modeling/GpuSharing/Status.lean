import GpuSharing.Service.Basic

/-!
# Status rows

What the parts of a node hold at a moment, as compact rows for monitoring: one row
for each device, reservation or session, in the order in which they are listed.
-/

set_option autoImplicit false

namespace GpuSharing

def GpuAllocation.statusRow (allocation : GpuAllocation) : Json :=
  .array [.of allocation.id, .of allocation.share, .of allocation.memoryMib,
    .of allocation.status, .of allocation.dies]

/-- The usage of each device and the allocations that live on it. -/
def Ledger.status {δ : Type} [Booked δ] (ledger : Ledger δ) : Json :=
  .ofList (fun (id, books) =>
    let usage := Booked.usage books id
    .array [.of id, .of usage.shareUsed, .of usage.memoryUsedMib,
      .of usage.memoryTotalMib, .of usage.allocations, .of usage.freeDies,
      .ofList GpuAllocation.statusRow (Booked.allocations books)]) ledger.devices.entries

/-- Whose turn it is on each device, and who waits. -/
def TimeSlicingScheduler.turns (scheduler : TimeSlicingScheduler) : Json :=
  .ofList (fun (id, device) => .array [.of id, .of device.active, .of device.queue])
    scheduler.ledger.devices.entries

def DeviceRegistry.status (registry : DeviceRegistry) : Json :=
  .ofList (fun device =>
    .array [.of device.descriptor.device, .of device.activeAllocations,
      .of device.isAvailable, .of device.missing, .of device.lastRefresh]) registry.list

def ReservationBook.status (book : ReservationBook) : Json :=
  .ofList (fun reservation =>
    .array [.of reservation.id, .of reservation.status, .of reservation.start,
      .of reservation.finish, .of reservation.updatedAt]) book.listAll

def IsolationSessions.status (sessions : IsolationSessions) : Json :=
  .of sessions.counts.entries

def AllocationService.status (service : AllocationService) : Json :=
  .object [("devices", service.registry.status),
    ("fractional", service.fractional.ledger.status),
    ("partitioned", service.partitioned.ledger.status),
    ("scheduler", service.scheduler.ledger.status),
    ("turns", service.scheduler.turns),
    ("sessions", .ofOption IsolationSessions.status service.isolation)]

end GpuSharing
