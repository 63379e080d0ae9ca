import GpuSharing.Decimal.Layout
import GpuSharing.Service.Basic

/-!
# Booking

An allocation is granted by the allocator that serves its device, and takes effect
once its isolation session runs. If the session cannot be started, the grant is
undone.
-/

set_option autoImplicit false

namespace GpuSharing.AllocationService

def temperatureNote (device : Device) : String :=
  let temperature := match device.descriptor.temperatureCelsius with
    | some celsius => s!"Some({Decimal.Layout.reading.render celsius})"
    | none => "None"
  s!"temperature: {temperature}, active allocations: {device.activeAllocations}, missing: {device.missing}"

def requireAvailable (service : AllocationService) (device : String) : Outcome Unit := do
  let known ← service.registry.get device
  if known.isAvailable then pure ()
  else
    .error
      { error := .resourceExhausted device "device is unavailable"
        notes := [temperatureNote known] }

/-- The allocator that an undivided device must not be booked by at the same time. -/
def rivalOf : AllocatorKind → Option AllocatorKind
  | .fractional => some .timeSlicing
  | .timeSlicing => some .fractional
  | .partitionAware => none

def requireSingleBooking (service : AllocationService) (device : String) (kind : AllocatorKind) :
    Outcome Unit :=
  match rivalOf kind with
  | none => .ok ()
  | some other =>
      let held := service.countOf other device
      if held = 0 then .ok ()
      else
        .error
          { error := .policyViolation
              s!"{device} is booked by the {other} allocator, {kind} requests must wait"
            notes := [s!"{held} live {other} allocations"] }

def requireBelowCeiling (service : AllocationService) (device : String) : Outcome Unit :=
  let ceiling := service.registry.config.maxAllocations
  let count := service.count device
  require (count < ceiling)
    (.resourceExhausted device s!"{count} allocations reach the per-device ceiling of {ceiling}")

def canAllocate (service : AllocationService) (device : String) (request : AllocationRequest) :
    Outcome Unit := do
  service.requireAvailable device
  let kind ← service.route device request
  service.requireSingleBooking device kind
  service.checkIn kind device request

def vet (service : AllocationService) (device : String) (request : AllocationRequest) :
    Outcome AllocatorKind := do
  service.requireAvailable device
  let kind ← service.route device request
  require (service.owners.get? request.id = none)
    (.validation s!"allocation id {request.id} is already in use")
  service.requireSingleBooking device kind
  service.requireBelowCeiling device
  pure kind

def grant (service : AllocationService) (device : String) (request : AllocationRequest)
    (clock : Clock) : Outcome (AllocatorKind × GpuAllocation) × AllocationService :=
  match service.vet device request with
  | .error failure => (.error failure, service)
  | .ok kind =>
      match service.allocateIn kind device request clock with
      | (.error failure, service) => (.error failure, service)
      | (.ok allocation, service) =>
          let owners := service.owners.insert allocation.id kind
          (.ok (kind, allocation), { service with owners }.syncCount device)

def openSession (service : AllocationService) (allocation : GpuAllocation) :
    Outcome Unit × AllocationService :=
  match service.sessionsFor allocation with
  | none => (.ok (), service)
  | some sessions =>
      match sessions.acquire allocation.device with
      | (.ok (), sessions) => (.ok (), { service with isolation := some sessions })
      | (.error failure, sessions) =>
          (.error
            { error := .resourceExhausted allocation.device "isolation session could not be started"
              notes := failure.notes
              causes := [failure.error.message] },
            { service with isolation := some sessions })

/-- Gives up a name, unless another allocator holds it by now. -/
def forget (service : AllocationService) (id : String) (kind : AllocatorKind) :
    AllocationService :=
  if service.owners.get? id = some kind then
    { service with owners := service.owners.erase id }
  else service

/-- Opens the session of a granted allocation, or undoes the grant. -/
def complete (service : AllocationService) (kind : AllocatorKind) (allocation : GpuAllocation) :
    Outcome GpuAllocation × AllocationService :=
  match service.openSession allocation with
  | (.ok (), service) => (.ok allocation, service)
  | (.error failure, service) =>
      let service := ((service.forget allocation.id kind).releaseFrom kind allocation.id).2
      (.error failure, service.syncCount allocation.device)

def allocate (service : AllocationService) (device : String) (request : AllocationRequest)
    (clock : Clock) : Outcome GpuAllocation × AllocationService :=
  match service.grant device request clock with
  | (.error failure, service) => (.error failure, service)
  | (.ok (kind, allocation), service) => service.complete kind allocation

/-- The usage of a device by the allocator that would serve a request, if it can. -/
def candidate? (service : AllocationService) (request : AllocationRequest) (device : Device) :
    Option DeviceUsage :=
  let id := device.descriptor.device
  let usage := do
    service.canAllocate id request
    let kind ← service.route id request
    service.usageIn kind id
  if device.isAvailable then usage.toOption else none

def candidates (service : AllocationService) (request : AllocationRequest) : List DeviceUsage :=
  service.registry.list.filterMap (service.candidate? request)

/-- Allocates on a device that a strategy picks among those that can take the request. -/
def allocateAuto (service : AllocationService) (strategy : SelectionStrategy)
    (request : AllocationRequest) (clock : Clock) : Outcome GpuAllocation × AllocationService :=
  let refusal := noDeviceFor "no available device" request
  match service.selector.choose strategy (service.candidates request) refusal with
  | (.error failure, _) => (.error failure, service)
  | (.ok device, selector) => { service with selector }.allocate device request clock

def reserve (service : AllocationService) (request : ReservationRequest) (now : Timestamp) :
    Outcome Reservation × AllocationService :=
  match service.registry.get request.gpu with
  | .error failure => (.error failure, service)
  | .ok _ =>
      let (result, reservations) := service.reservations.create request now
      (result, { service with reservations })

end GpuSharing.AllocationService
