import GpuSharing.Service.Basic

/-!
# Release and expiry

Allocations leave the node when they are released or when their time is over, and
with them their hold on the isolation session of their device.
-/

set_option autoImplicit false

namespace GpuSharing.AllocationService

def closeSession (service : AllocationService) (allocation : GpuAllocation) : AllocationService :=
  match service.sessionsFor allocation with
  | none => service
  | some sessions =>
      { service with isolation := some (sessions.release allocation.device).2 }

def release (service : AllocationService) (id : String) :
    Outcome GpuAllocation × AllocationService :=
  match service.owners.get? id with
  | none => (refuse (.notFound .allocation id), service)
  | some kind =>
      match service.releaseFrom kind id with
      | (.error failure, service) => (.error failure, service)
      | (.ok released, service) =>
          let owners := service.owners.erase id
          (.ok released,
            ({ service with owners }.syncCount released.device).closeSession released)

def expireAll (service : AllocationService) (now : Timestamp) :
    List GpuAllocation × AllocationService :=
  let (shares, fractional) := service.fractional.expire now
  let (parts, partitioned) := service.partitioned.expire now
  let (turns, scheduler) := service.scheduler.expire now
  (shares ++ parts ++ turns, { service with fractional, partitioned, scheduler })

/-- Drops the allocations that have expired, with their names and sessions. -/
def cleanup (service : AllocationService) (now : Timestamp) :
    List GpuAllocation × AllocationService :=
  let (expired, service) := service.expireAll now
  let owners := expired.foldl (fun owners allocation => owners.erase allocation.id) service.owners
  let counted := expired.foldl (fun service allocation => service.syncCount allocation.device)
    { service with owners }
  (expired, expired.foldl closeSession counted)

def rotate (service : AllocationService) (now : Instant) :
    List (String × Rotation) × AllocationService :=
  let (rotations, scheduler) := service.scheduler.updateAll now
  (rotations, { service with scheduler })

def releaseEach (service : AllocationService) (ids : List String) : AllocationService :=
  ids.foldl (fun service id => (service.release id).2) service

def releaseIsolated (service : AllocationService) (device : String) : AllocationService :=
  let isolated := (service.list device).filter (·.isolation = .process)
  service.releaseEach (isolated.map (·.id))

/-- Releases every allocation that holds an isolation session. -/
def shutdown (service : AllocationService) : AllocationService :=
  match service.isolation with
  | none => service
  | some sessions => sessions.activeDevices.foldl releaseIsolated service

/-- Restarts sessions that are not healthy. A node without a server has none. -/
def checkHealth (service : AllocationService) : List String × AllocationService :=
  match service.isolation with
  | none => ([], service)
  | some sessions =>
      let (restarted, sessions) := sessions.checkHealth
      (restarted, { service with isolation := some sessions })

end GpuSharing.AllocationService
