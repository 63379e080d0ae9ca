import GpuSharing.Fractional
import GpuSharing.Isolation.Session
import GpuSharing.Partition.Allocator
import GpuSharing.Registry
import GpuSharing.Reservation.Sweep
import GpuSharing.Turns.Scheduler

/-!
# The allocation service

One entry point for all allocations of a node. A divided device is served by the
partition allocator. An undivided one is served by the fractional allocator or by
the time-slicing scheduler, but never by both at a time.
-/

set_option autoImplicit false

namespace GpuSharing

inductive UnpartitionedMode where
  | fractional
  | timeSliced
  deriving DecidableEq, Repr

structure AllocationService where
  mode : UnpartitionedMode := .fractional
  registry : DeviceRegistry
  fractional : FractionalAllocator
  partitioned : PartitionAllocator
  scheduler : TimeSlicingScheduler
  reservations : ReservationBook
  isolation : Option IsolationSessions := none
  /-- Which allocator holds each live allocation. -/
  owners : Keyed AllocatorKind := .empty
  selector : Selector := {}

namespace AllocationService

def countOf (service : AllocationService) : AllocatorKind → String → Nat
  | .fractional, device => service.fractional.ledger.count device
  | .partitionAware, device => service.partitioned.ledger.count device
  | .timeSlicing, device => service.scheduler.ledger.count device

def count (service : AllocationService) (device : String) : Nat :=
  service.countOf .fractional device + service.countOf .partitionAware device +
    service.countOf .timeSlicing device

/-- Whether one allocator can grant a request. -/
def checkIn (service : AllocationService) (kind : AllocatorKind) (device : String)
    (request : AllocationRequest) : Outcome Unit :=
  match kind with
  | .fractional => service.fractional.canAllocate device request
  | .partitionAware => service.partitioned.canAllocate device request
  | .timeSlicing => service.scheduler.canAllocate device request

def allocateIn (service : AllocationService) (kind : AllocatorKind) (device : String)
    (request : AllocationRequest) (clock : Clock) : Outcome GpuAllocation × AllocationService :=
  match kind with
  | .fractional =>
      let (result, fractional) := service.fractional.allocate device request clock.wall
      (result, { service with fractional })
  | .partitionAware =>
      let (result, partitioned) := service.partitioned.allocate device request clock.wall
      (result, { service with partitioned })
  | .timeSlicing =>
      let (result, scheduler) := service.scheduler.allocate device request clock
      (result, { service with scheduler })

def releaseFrom (service : AllocationService) (kind : AllocatorKind) (id : String) :
    Outcome GpuAllocation × AllocationService :=
  match kind with
  | .fractional =>
      let (result, fractional) := service.fractional.release id
      (result, { service with fractional })
  | .partitionAware =>
      let (result, partitioned) := service.partitioned.release id
      (result, { service with partitioned })
  | .timeSlicing =>
      let (result, scheduler) := service.scheduler.release id
      (result, { service with scheduler })

def getFrom (service : AllocationService) (kind : AllocatorKind) (id : String) :
    Outcome GpuAllocation :=
  match kind with
  | .fractional => service.fractional.ledger.get id
  | .partitionAware => service.partitioned.ledger.get id
  | .timeSlicing => service.scheduler.ledger.get id

def listIn (service : AllocationService) (kind : AllocatorKind) (device : String) :
    Outcome (List GpuAllocation) :=
  match kind with
  | .fractional => service.fractional.ledger.list device
  | .partitionAware => service.partitioned.ledger.list device
  | .timeSlicing => service.scheduler.ledger.list device

def usageIn (service : AllocationService) (kind : AllocatorKind) (device : String) :
    Outcome DeviceUsage :=
  match kind with
  | .fractional => service.fractional.ledger.usage device
  | .partitionAware => service.partitioned.ledger.usage device
  | .timeSlicing => service.scheduler.ledger.usage device

def get (service : AllocationService) (id : String) : Outcome GpuAllocation :=
  match service.owners.get? id with
  | none => refuse (.notFound .allocation id)
  | some kind => service.getFrom kind id

def list (service : AllocationService) (device : String) : List GpuAllocation :=
  [AllocatorKind.fractional, .partitionAware, .timeSlicing].flatMap fun kind =>
    match service.listIn kind device with
    | .ok allocations => allocations
    | .error _ => []

def route (service : AllocationService) (device : String) (request : AllocationRequest) :
    Outcome AllocatorKind := do
  let known ← service.registry.get device
  if known.descriptor.partition.isSome then pure .partitionAware
  else if request.isolation = .timeSlice ∨ service.mode = .timeSliced then pure .timeSlicing
  else pure .fractional

def syncCount (service : AllocationService) (device : String) : AllocationService :=
  { service with registry := (service.registry.setActive device (service.count device)).2 }

/-- The sessions, where an allocation needs one and the node has a server for them. -/
def sessionsFor (service : AllocationService) (allocation : GpuAllocation) :
    Option IsolationSessions :=
  if allocation.isolation = .process then service.isolation else none

end AllocationService

end GpuSharing
