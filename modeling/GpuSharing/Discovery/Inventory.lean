import GpuSharing.Discovery.Source
import GpuSharing.Host.FileTree
import GpuSharing.Yaml.Reader
import GpuSharing.Yaml.Record

/-!
# Inventories

Files that list the devices of a node by hand. An entry that cannot be used is a
failure of that device; a file that cannot be read is an error as a whole.
-/

set_option autoImplicit false

namespace GpuSharing

structure InventoryDevice where
  device : String
  model : String := DeviceDescriptor.unknownModel
  memoryTotalMib : UInt64
  memoryUsedMib : UInt64 := 0
  partition : Option PartitionConfig := none
  temperatureCelsius : Option Float := none
  pciBus : Option String := none

structure Inventory where
  devices : List InventoryDevice

def PartitionConfig.ofYaml? (value : Yaml) : Option PartitionConfig := do
  let record ← value.record? ["computeMode", "memoryMode", "xcdCount"]
  let computeMode ← record.required? "computeMode"
    (Yaml.case? (ComputeMode.all.map fun mode => (mode.name, mode)))
  let memoryMode ← record.required? "memoryMode"
    (Yaml.case? (MemoryMode.all.map fun mode => (mode.name, mode)))
  let dies ← record.defaulted? "xcdCount" 8 Yaml.uint8?
  pure { computeMode, memoryMode, dies }

namespace InventoryDevice

def ofYaml? (value : Yaml) : Option InventoryDevice := do
  let record ← value.record? ["deviceId", "model", "memoryTotalMib", "memoryUsedMib",
    "partition", "temperatureCelsius", "pciBus"]
  let device ← record.required? "deviceId" Yaml.string?
  let model ← record.defaulted? "model" DeviceDescriptor.unknownModel Yaml.string?
  let memoryTotalMib ← record.required? "memoryTotalMib" Yaml.uint64?
  let memoryUsedMib ← record.defaulted? "memoryUsedMib" 0 Yaml.uint64?
  let partition ← record.optional? "partition" PartitionConfig.ofYaml?
  let temperatureCelsius ← record.optional? "temperatureCelsius" Yaml.float?
  let pciBus ← record.optional? "pciBus" Yaml.string?
  pure { device, model, memoryTotalMib, memoryUsedMib, partition, temperatureCelsius, pciBus }

def toJson (entry : InventoryDevice) : Json :=
  .object [("deviceId", .string entry.device), ("model", .string entry.model),
    ("memoryTotalMib", .ofUInt64 entry.memoryTotalMib),
    ("memoryUsedMib", .ofUInt64 entry.memoryUsedMib),
    ("partition", .ofOption PartitionConfig.toJson entry.partition),
    ("temperatureCelsius", .ofOption .ofFloat entry.temperatureCelsius),
    ("pciBus", .ofOption .string entry.pciBus)]

instance : ToJson InventoryDevice := ⟨toJson⟩

def descriptor (entry : InventoryDevice) : Except DeviceFailure DeviceDescriptor :=
  let refuse (reason : String) : Except DeviceFailure DeviceDescriptor :=
    .error { device := entry.device, reason }
  let descriptor : DeviceDescriptor :=
    { device := entry.device
      model := entry.model
      memoryTotalBytes := mibToBytes entry.memoryTotalMib
      memoryUsedBytes := mibToBytes entry.memoryUsedMib
      temperatureCelsius := entry.temperatureCelsius
      partition := entry.partition
      pciBus := entry.pciBus }
  if Text.isVoid entry.device then refuse "empty device id"
  else if entry.memoryTotalMib = 0 then refuse "memoryTotalMib must be positive"
  else
    match entry.partition.map PartitionConfig.validate with
    | some (.error failure) => refuse failure.error.message
    | _ => .ok descriptor

end InventoryDevice

namespace Inventory

def parse? (text : String) : Option Inventory := do
  let value ← Yaml.parse? text
  let record ← value.record? ["devices"]
  let devices ← record.defaulted? "devices" [] (Yaml.list? InventoryDevice.ofYaml?)
  pure { devices }

def toJson (inventory : Inventory) : Json :=
  .object [("devices", .ofList InventoryDevice.toJson inventory.devices)]

instance : ToJson Inventory := ⟨toJson⟩

def report (inventory : Inventory) : DiscoveryReport :=
  .ofResults "inventory" (inventory.devices.map (·.descriptor))

def discover (files : FileTree) (path : String) : Discovery :=
  match files.readText path with
  | .error .notFound => .error (.unavailable s!"inventory {path} does not exist")
  | .error error => .error (.io path error.message)
  | .ok text =>
      match parse? text with
      | some inventory => .ok inventory.report
      | none => .error (.parse path "not an inventory")

def source (files : FileTree) (path : String) : DiscoverySource :=
  .ofDiscovery "inventory" (discover files path) []

end Inventory

end GpuSharing
