import GpuSharing.Keyed
import GpuSharing.Pool

/-!
# Ledgers of allocations

What all allocators share: devices that hold allocations, and an index from the name
of an allocation to its device. How a device grants, loses and counts allocations
is its own affair.
-/

set_option autoImplicit false

namespace GpuSharing

/-- A device that keeps a list of live allocations. -/
class Booked (δ : Type) where
  allocations : δ → List GpuAllocation
  remove? : δ → String → Option (GpuAllocation × δ)
  expire : δ → Timestamp → List GpuAllocation × δ
  usage : δ → String → DeviceUsage

instance : Booked SharePool where
  allocations := SharePool.allocations
  remove? := SharePool.remove?
  expire := SharePool.expire
  usage := SharePool.usage

structure Ledger (δ : Type) where
  devices : Keyed δ := .empty
  owners : Keyed String := .empty
  deriving DecidableEq, Repr

namespace Ledger

variable {δ : Type}

def device (ledger : Ledger δ) (id : String) : Outcome δ :=
  match ledger.devices.get? id with
  | some device => .ok device
  | none => refuse (.notFound .device id)

def deviceIds (ledger : Ledger δ) : List String := ledger.devices.keys

def containsDevice (ledger : Ledger δ) (id : String) : Bool := ledger.devices.contains id

def requireUnused (ledger : Ledger δ) (id : String) : Outcome Unit :=
  require (ledger.owners.get? id = none)
    (.validation s!"allocation id `{id}` is already in use")

def enter (ledger : Ledger δ) (device : String) (changed : δ) (allocation : GpuAllocation) :
    Ledger δ :=
  { devices := ledger.devices.insert device changed
    owners := ledger.owners.insert allocation.id device }

section Books

variable [Booked δ]

def release (ledger : Ledger δ) (id : String) : Outcome GpuAllocation × Ledger δ :=
  match ledger.owners.get? id with
  | none => (refuse (.notFound .allocation id), ledger)
  | some device =>
      let owners := ledger.owners.erase id
      match (ledger.devices.get? device).bind (Booked.remove? · id) with
      | none => (refuse (.notFound .allocation id), { ledger with owners })
      | some (allocation, changed) =>
          (.ok { allocation with status := .completed },
            { devices := ledger.devices.insert device changed, owners })

/-- Takes everything off the books that has expired, device by device. -/
def expire (ledger : Ledger δ) (now : Timestamp) : List GpuAllocation × Ledger δ :=
  let expired := ledger.devices.values.flatMap fun device => (Booked.expire device now).1
  (expired.map fun allocation => { allocation with status := .expired },
    { devices := ledger.devices.map fun device => (Booked.expire device now).2
      owners := expired.foldl (fun owners allocation => owners.erase allocation.id) ledger.owners })

def get (ledger : Ledger δ) (id : String) : Outcome GpuAllocation :=
  let found := do
    let device ← ledger.devices.get? (← ledger.owners.get? id)
    (Booked.allocations device).find? (·.id = id)
  match found with
  | some allocation => .ok allocation
  | none => refuse (.notFound .allocation id)

def list (ledger : Ledger δ) (device : String) : Outcome (List GpuAllocation) :=
  (ledger.device device).map Booked.allocations

def usage (ledger : Ledger δ) (device : String) : Outcome DeviceUsage :=
  (ledger.device device).map (Booked.usage · device)

def count (ledger : Ledger δ) (device : String) : Nat :=
  match ledger.devices.get? device with
  | some books => (Booked.allocations books).length
  | none => 0

end Books

end Ledger

end GpuSharing
