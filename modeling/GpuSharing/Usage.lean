import GpuSharing.Memory
import GpuSharing.Share

/-!
# Usage of a device

What one allocator has given away of a device, and the two scores by which devices
are compared.
-/

set_option autoImplicit false

namespace GpuSharing

structure DeviceUsage where
  device : String
  shareUsed : Share
  memoryUsedMib : UInt64
  memoryTotalMib : UInt64
  allocations : Nat
  /-- Known only where dies are given away one by one. -/
  freeDies : Option UInt8 := none
  deriving DecidableEq, Repr

namespace DeviceUsage

def utilization (usage : DeviceUsage) : Float := usage.shareUsed.toFraction

/-- A device without memory counts as full. -/
def memoryUtilization (usage : DeviceUsage) : Float :=
  if usage.memoryTotalMib = 0 then 1.0
  else usage.memoryUsedMib.toFloat / usage.memoryTotalMib.toFloat

def memoryFreeMib (usage : DeviceUsage) : UInt64 :=
  monus usage.memoryTotalMib usage.memoryUsedMib

/-- Six tenths of the share used and four tenths of the memory used. -/
def fitScore (usage : DeviceUsage) : Float :=
  0.6 * usage.utilization + 0.4 * usage.memoryUtilization

/-- Seven tenths of the share used and three tenths of the allocations, out of ten. -/
def loadScore (usage : DeviceUsage) : Float :=
  0.7 * usage.utilization + 0.3 * (usage.allocations.toFloat / 10.0)

def toJson (usage : DeviceUsage) : Json :=
  .object [("deviceId", .string usage.device), ("shareUsed", usage.shareUsed.toJson),
    ("memoryUsedMib", .ofUInt64 usage.memoryUsedMib),
    ("memoryTotalMib", .ofUInt64 usage.memoryTotalMib),
    ("activeAllocations", .ofNat usage.allocations),
    ("freeXcds", .ofOption (fun dies => .ofNat dies.toNat) usage.freeDies)]

instance : ToJson DeviceUsage := ⟨toJson⟩

end DeviceUsage

end GpuSharing
