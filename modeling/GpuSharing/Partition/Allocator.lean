import GpuSharing.Ledger
import GpuSharing.Partition.DieMap
import GpuSharing.Policy
import GpuSharing.Selection

/-!
# Allocation on divided devices

A device in one unit is given away as a whole, a device in eight units die by die,
and a device in thirds by its share and memory.
-/

set_option autoImplicit false

namespace GpuSharing

structure PartitionedDevice where
  config : PartitionConfig
  pool : SharePool
  dies : DieMap := .empty
  deriving DecidableEq, Repr

namespace PartitionedDevice

def check (device : PartitionedDevice) (id : String) (share : Share) (memoryMib : UInt64) :
    Outcome Unit :=
  match device.config.computeMode with
  | .spx =>
      match device.pool.allocations with
      | holder :: _ => refuse (.resourceExhausted id s!"device is exclusively held by {holder.id}")
      | [] => device.pool.checkMemory id memoryMib
  | .cpx => do
      let needed := share.dies
      let free := device.dies.freeCount
      require (needed.toNat ≤ free) (.resourceExhausted id s!"need {needed} XCDs, {free} free")
      device.pool.checkMemory id memoryMib
  | .tpx => device.pool.check id share memoryMib

def claim? (device : PartitionedDevice) (allocation : GpuAllocation) :
    Option (GpuAllocation × PartitionedDevice) :=
  if device.config.computeMode = .cpx then
    (device.dies.claim? allocation.id allocation.share.dies.toNat).map fun (taken, dies) =>
      ({ allocation with dies := taken.map Die.index }, { device with dies })
  else some (allocation, device)

/-- Takes an allocation off the device and frees its dies. -/
def remove? (device : PartitionedDevice) (id : String) :
    Option (GpuAllocation × PartitionedDevice) :=
  (device.pool.remove? id).map fun (allocation, pool) =>
    (allocation, { device with pool, dies := (device.dies.release id).2 })

def expire (device : PartitionedDevice) (now : Timestamp) :
    List GpuAllocation × PartitionedDevice :=
  let (expired, pool) := device.pool.expire now
  let dies := expired.foldl (fun dies allocation => (dies.release allocation.id).2) device.dies
  (expired, { device with pool, dies })

def usage (device : PartitionedDevice) (id : String) : DeviceUsage :=
  let freeDies :=
    if device.config.computeMode = .cpx then some (UInt8.ofNat device.dies.freeCount) else none
  { device.pool.usage id with freeDies }

instance : Booked PartitionedDevice where
  allocations device := device.pool.allocations
  remove? := remove?
  expire := expire
  usage := usage

end PartitionedDevice

structure PartitionAllocator where
  policy : AllocationPolicy
  ledger : Ledger PartitionedDevice := {}
  selector : Selector := {}

namespace PartitionAllocator

/-- Adds a device, or changes the memory and the division of a known one. A device
is not divided anew while allocations live on it. -/
def register (allocator : PartitionAllocator) (device : String) (memoryTotalMib : UInt64)
    (config : PartitionConfig) : Outcome Unit × PartitionAllocator :=
  let enter (changed : PartitionedDevice) : PartitionAllocator :=
    { allocator with ledger.devices := allocator.ledger.devices.insert device changed }
  match config.validate with
  | .error failure => (.error failure, allocator)
  | .ok () =>
      match allocator.ledger.devices.get? device with
      | none => (.ok (), enter { config, pool := { memoryTotalMib } })
      | some known =>
          let pool := { known.pool with memoryTotalMib }
          if known.config = config then (.ok (), enter { known with pool })
          else if known.pool.allocations = [] then (.ok (), enter { config, pool })
          else
            let live := known.pool.allocations.length
            (refuse (.policyViolation
              s!"cannot switch {device} from {known.config} to {config} with {live} live allocations"),
              allocator)

def check (allocator : PartitionAllocator) (device : String) (request : AllocationRequest) :
    Outcome (PartitionedDevice × Share) := do
  let _ ← allocator.policy.vet request
  allocator.ledger.requireUnused request.id
  let books ← allocator.ledger.device device
  let share ← books.config.computeMode.shareOf request.fraction
  books.check device share request.memoryMib
  pure (books, share)

def canAllocate (allocator : PartitionAllocator) (device : String)
    (request : AllocationRequest) : Outcome Unit := do
  let _ ← allocator.check device request
  pure ()

def allocate (allocator : PartitionAllocator) (device : String) (request : AllocationRequest)
    (now : Timestamp) : Outcome GpuAllocation × PartitionAllocator :=
  match allocator.check device request with
  | .error failure => (.error failure, allocator)
  | .ok (books, share) =>
      match books.claim? (.ofRequest device request share .active now) with
      | none =>
          (refuse (.resourceExhausted device "XCDs were claimed concurrently"), allocator)
      | some (allocation, claimed) =>
          let changed := { claimed with pool := claimed.pool.push allocation }
          (.ok allocation,
            { allocator with ledger := allocator.ledger.enter device changed allocation })

def release (allocator : PartitionAllocator) (id : String) :
    Outcome GpuAllocation × PartitionAllocator :=
  let (result, ledger) := allocator.ledger.release id
  (result, { allocator with ledger })

def expire (allocator : PartitionAllocator) (now : Timestamp) :
    List GpuAllocation × PartitionAllocator :=
  let (expired, ledger) := allocator.ledger.expire now
  (expired, { allocator with ledger })

def config? (allocator : PartitionAllocator) (device : String) : Option PartitionConfig :=
  (allocator.ledger.devices.get? device).map (·.config)

def diesOf (allocator : PartitionAllocator) (id : String) : List Die :=
  match (allocator.ledger.owners.get? id).bind allocator.ledger.devices.get? with
  | some device => device.dies.diesOf id
  | none => []

def candidates (allocator : PartitionAllocator) (request : AllocationRequest) :
    List DeviceUsage :=
  (allocator.ledger.devices.entries.filter fun entry =>
      (allocator.canAllocate entry.1 request).isOk).map fun entry => entry.2.usage entry.1

def select (allocator : PartitionAllocator) (strategy : SelectionStrategy)
    (request : AllocationRequest) : Outcome String × PartitionAllocator :=
  let (result, selector) :=
    allocator.selector.choose strategy (allocator.candidates request) (noDeviceFor "no device" request)
  (result, { allocator with selector })

end PartitionAllocator

end GpuSharing
