import GpuSharing.Policy
import GpuSharing.Turns.Device

/-!
# The time-slicing scheduler

Allocations on undivided devices that take turns. Memory is given away at once; the
turn passes on when the time slice of the device is over.
-/

set_option autoImplicit false

namespace GpuSharing

structure SchedulerConfig where
  timeSlice : Duration := .ofMilliseconds 100
  /-- The memory of a device that reports none. -/
  defaultMemoryMib : UInt64 := 16384
  deriving DecidableEq, Repr

structure TimeSlicingScheduler where
  config : SchedulerConfig
  policy : AllocationPolicy
  ledger : Ledger SlicedDevice := {}

structure SchedulerSnapshot where
  device : String
  timeSlice : Duration
  active : Option String
  queue : List String
  sinceLastSwitch : Duration
  memoryUsedMib : UInt64
  memoryTotalMib : UInt64
  deriving DecidableEq, Repr

def SchedulerSnapshot.toJson (snapshot : SchedulerSnapshot) : Json :=
  .object [("deviceId", .string snapshot.device), ("timeSlice", snapshot.timeSlice.toJson),
    ("activeWorkload", .ofOption .string snapshot.active),
    ("queue", .ofList .string snapshot.queue),
    ("sinceLastSwitch", snapshot.sinceLastSwitch.toJson),
    ("memoryUsedMib", .ofUInt64 snapshot.memoryUsedMib),
    ("memoryTotalMib", .ofUInt64 snapshot.memoryTotalMib)]

instance : ToJson SchedulerSnapshot := ⟨SchedulerSnapshot.toJson⟩

namespace TimeSlicingScheduler

def effectiveMemory (scheduler : TimeSlicingScheduler) (reported : UInt64) : UInt64 :=
  if reported = 0 then scheduler.config.defaultMemoryMib else reported

/-- Adds a device, or changes the memory of a known one. -/
def register (scheduler : TimeSlicingScheduler) (device : String) (reported : UInt64)
    (now : Instant) : TimeSlicingScheduler :=
  let memoryTotalMib := scheduler.effectiveMemory reported
  let changed := match scheduler.ledger.devices.get? device with
    | some known => { known with memoryTotalMib }
    | none => { memoryTotalMib, lastSwitch := now }
  { scheduler with ledger.devices := scheduler.ledger.devices.insert device changed }

/-- The device as it is, or as it would be on its first use. -/
def deviceOrNew (scheduler : TimeSlicingScheduler) (device : String) (now : Instant) :
    SlicedDevice :=
  match scheduler.ledger.devices.get? device with
  | some known => known
  | none => { memoryTotalMib := scheduler.config.defaultMemoryMib, lastSwitch := now }

/-- The share that a request can be granted. A device that is not known counts as
one with the default memory. -/
def check (scheduler : TimeSlicingScheduler) (device : String) (request : AllocationRequest) :
    Outcome Share := do
  let share ← scheduler.policy.vet request
  scheduler.ledger.requireUnused request.id
  let (used, total) := match scheduler.ledger.devices.get? device with
    | some known => (known.memoryUsedMib, known.memoryTotalMib)
    | none => (0, scheduler.config.defaultMemoryMib)
  requireMemory device request.memoryMib (monus total used)
  pure share

def canAllocate (scheduler : TimeSlicingScheduler) (device : String)
    (request : AllocationRequest) : Outcome Unit := do
  let _ ← scheduler.check device request
  pure ()

/-- Queues a workload on a device, which becomes known if it was not. -/
def allocate (scheduler : TimeSlicingScheduler) (device : String) (request : AllocationRequest)
    (clock : Clock) : Outcome GpuAllocation × TimeSlicingScheduler :=
  match scheduler.check device request with
  | .error failure => (.error failure, scheduler)
  | .ok share =>
      let workload := GpuAllocation.ofRequest device request share .pending clock.wall
      let changed := (scheduler.deviceOrNew device clock.monotonic).enqueue workload
      (.ok workload, { scheduler with ledger := scheduler.ledger.enter device changed workload })

def release (scheduler : TimeSlicingScheduler) (id : String) :
    Outcome GpuAllocation × TimeSlicingScheduler :=
  let (result, ledger) := scheduler.ledger.release id
  (result, { scheduler with ledger })

def expire (scheduler : TimeSlicingScheduler) (now : Timestamp) :
    List GpuAllocation × TimeSlicingScheduler :=
  let (expired, ledger) := scheduler.ledger.expire now
  (expired, { scheduler with ledger })

/-- Passes the turn on if the slice of the device is over. -/
def update (scheduler : TimeSlicingScheduler) (device : String) (now : Instant) :
    Outcome (Option Rotation) × TimeSlicingScheduler :=
  match scheduler.ledger.device device with
  | .error failure => (.error failure, scheduler)
  | .ok known =>
      if now.since known.lastSwitch < scheduler.config.timeSlice then (.ok none, scheduler)
      else
        let (rotation, changed) := known.rotate now
        (.ok (some rotation),
          { scheduler with ledger.devices := scheduler.ledger.devices.insert device changed })

/-- Passes the turn on wherever a slice is over, in the order of the device names. -/
def updateAll (scheduler : TimeSlicingScheduler) (now : Instant) :
    List (String × Rotation) × TimeSlicingScheduler :=
  scheduler.ledger.deviceIds.foldl (fun (rotations, scheduler) device =>
    match scheduler.update device now with
    | (.ok (some rotation), scheduler) => (rotations ++ [(device, rotation)], scheduler)
    | (_, scheduler) => (rotations, scheduler)) ([], scheduler)

def snapshot (scheduler : TimeSlicingScheduler) (device : String) (now : Instant) :
    Outcome SchedulerSnapshot := do
  let known ← scheduler.ledger.device device
  pure { device
         timeSlice := scheduler.config.timeSlice
         active := known.active
         queue := known.queue
         sinceLastSwitch := now.since known.lastSwitch
         memoryUsedMib := known.memoryUsedMib
         memoryTotalMib := known.memoryTotalMib }

end TimeSlicingScheduler

end GpuSharing
