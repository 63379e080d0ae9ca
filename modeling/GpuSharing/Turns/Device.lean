import GpuSharing.Ledger

/-!
# Turns on one device

The workloads of an undivided device that take turns: at most one of them is active,
and all the others wait in a queue.
-/

set_option autoImplicit false

namespace GpuSharing

/-- A change of turn: who had the turn, and who has it now. -/
structure Rotation where
  previous : Option String
  current : Option String
  deriving DecidableEq, Repr

structure SlicedDevice where
  memoryTotalMib : UInt64
  memoryUsedMib : UInt64 := 0
  workloads : List GpuAllocation := []
  /-- The names of the waiting workloads; the next turn goes to the first. -/
  queue : List String := []
  active : Option String := none
  lastSwitch : Instant
  deriving DecidableEq, Repr

namespace SlicedDevice

def setStatus (workloads : List GpuAllocation) (id : Option String) (status : AllocationStatus) :
    List GpuAllocation :=
  workloads.map fun workload => if some workload.id = id then { workload with status } else workload

def enqueue (device : SlicedDevice) (workload : GpuAllocation) : SlicedDevice :=
  { device with
    memoryUsedMib := device.memoryUsedMib + workload.memoryMib
    workloads := device.workloads ++ [workload]
    queue := device.queue ++ [workload.id] }

/-- Takes a workload off the device, with its place in the queue and its turn. -/
def remove? (device : SlicedDevice) (id : String) : Option (GpuAllocation × SlicedDevice) :=
  (takeAllocation? id device.workloads).map fun (workload, workloads) =>
    (workload,
      { device with
        workloads
        queue := device.queue.filter (· ≠ id)
        active := if device.active = some id then none else device.active
        memoryUsedMib := monus device.memoryUsedMib workload.memoryMib })

/-- Ends the current turn, if any, and gives the next one to the head of the queue.
Whoever had the turn waits at the end. -/
def rotate (device : SlicedDevice) (now : Instant) : Rotation × SlicedDevice :=
  let waiting := device.queue ++ device.active.toList
  let rested := setStatus device.workloads device.active .pending
  (⟨device.active, waiting.head?⟩,
    { device with
      workloads := setStatus rested waiting.head? .active
      queue := waiting.drop 1
      active := waiting.head?
      lastSwitch := now })

/-- Removes the named workloads one after another and returns those that were there. -/
def removeAll (device : SlicedDevice) : List String → List GpuAllocation × SlicedDevice
  | [] => ([], device)
  | id :: rest =>
      match device.remove? id with
      | none => device.removeAll rest
      | some (removed, device) =>
          let (others, device) := device.removeAll rest
          (removed :: others, device)

def expire (device : SlicedDevice) (now : Timestamp) : List GpuAllocation × SlicedDevice :=
  device.removeAll ((device.workloads.filter (·.isExpiredAt now)).map (·.id))

/-- The share in use is that of the workload whose turn it is. -/
def usage (device : SlicedDevice) (id : String) : DeviceUsage :=
  let running := device.workloads.find? fun workload => some workload.id = device.active
  { device := id
    shareUsed := match running with
      | some workload => workload.share
      | none => .zero
    memoryUsedMib := device.memoryUsedMib
    memoryTotalMib := device.memoryTotalMib
    allocations := device.workloads.length }

instance : Booked SlicedDevice where
  allocations := workloads
  remove? := remove?
  expire := expire
  usage := usage

end SlicedDevice

end GpuSharing
