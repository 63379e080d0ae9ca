import GpuSharing.Ledger
import GpuSharing.Policy
import GpuSharing.Selection

/-!
# Fractional allocation

Shares and memory of undivided devices, given away as long as both last.
-/

set_option autoImplicit false

namespace GpuSharing

inductive AllocatorKind where
  | fractional
  | partitionAware
  | timeSlicing
  deriving DecidableEq, Repr

def AllocatorKind.name : AllocatorKind → String
  | fractional => "fractional"
  | partitionAware => "partition-aware"
  | timeSlicing => "time-slicing"

instance : ToString AllocatorKind := ⟨AllocatorKind.name⟩
instance : ToJson AllocatorKind := ⟨fun kind => .string kind.name⟩

structure FractionalAllocator where
  policy : AllocationPolicy
  ledger : Ledger SharePool := {}
  selector : Selector := {}

namespace FractionalAllocator

/-- Adds a device, or changes the memory of a known one. -/
def register (allocator : FractionalAllocator) (device : String) (memoryTotalMib : UInt64) :
    FractionalAllocator :=
  let pool := match allocator.ledger.devices.get? device with
    | some pool => { pool with memoryTotalMib }
    | none => { memoryTotalMib }
  { allocator with ledger.devices := allocator.ledger.devices.insert device pool }

def check (allocator : FractionalAllocator) (device : String) (request : AllocationRequest) :
    Outcome (SharePool × Share) := do
  let share ← allocator.policy.vet request
  allocator.ledger.requireUnused request.id
  let pool ← allocator.ledger.device device
  pool.check device share request.memoryMib
  pure (pool, share)

def canAllocate (allocator : FractionalAllocator) (device : String)
    (request : AllocationRequest) : Outcome Unit := do
  let _ ← allocator.check device request
  pure ()

def allocate (allocator : FractionalAllocator) (device : String) (request : AllocationRequest)
    (now : Timestamp) : Outcome GpuAllocation × FractionalAllocator :=
  match allocator.check device request with
  | .error failure => (.error failure, allocator)
  | .ok (pool, share) =>
      let allocation := GpuAllocation.ofRequest device request share .active now
      (.ok allocation,
        { allocator with ledger := allocator.ledger.enter device (pool.push allocation) allocation })

def release (allocator : FractionalAllocator) (id : String) :
    Outcome GpuAllocation × FractionalAllocator :=
  let (result, ledger) := allocator.ledger.release id
  (result, { allocator with ledger })

def expire (allocator : FractionalAllocator) (now : Timestamp) :
    List GpuAllocation × FractionalAllocator :=
  let (expired, ledger) := allocator.ledger.expire now
  (expired, { allocator with ledger })

/-- The usage of every device that can take a request. -/
def candidates (allocator : FractionalAllocator) (request : AllocationRequest) :
    List DeviceUsage :=
  (allocator.ledger.devices.entries.filter fun entry =>
      (allocator.canAllocate entry.1 request).isOk).map fun entry => entry.2.usage entry.1

def select (allocator : FractionalAllocator) (strategy : SelectionStrategy)
    (request : AllocationRequest) : Outcome String × FractionalAllocator :=
  let (result, selector) :=
    allocator.selector.choose strategy (allocator.candidates request) (noDeviceFor "no device" request)
  (result, { allocator with selector })

end FractionalAllocator

end GpuSharing
