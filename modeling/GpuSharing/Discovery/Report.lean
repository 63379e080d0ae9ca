import GpuSharing.Discovery.NaturalOrder
import GpuSharing.Memory
import GpuSharing.Partition.Config
import GpuSharing.Time.Timestamp

/-!
# Discovery reports

What a discovery source says about the devices of the node: descriptors of those
that it could read, reasons for those that it could not, or an error as a whole.
-/

set_option autoImplicit false

namespace GpuSharing

structure DeviceDescriptor where
  device : String
  model : String
  memoryTotalBytes : UInt64
  memoryUsedBytes : UInt64 := 0
  utilizationPercent : Option Float := none
  temperatureCelsius : Option Float := none
  powerWatts : Option Float := none
  partition : Option PartitionConfig := none
  pciBus : Option String := none

namespace DeviceDescriptor

def unknownModel : String := "unknown"

def memoryAvailableBytes (descriptor : DeviceDescriptor) : UInt64 :=
  monus descriptor.memoryTotalBytes descriptor.memoryUsedBytes

def memoryTotalMib (descriptor : DeviceDescriptor) : UInt64 :=
  bytesToMib descriptor.memoryTotalBytes

def members (descriptor : DeviceDescriptor) : List (String × Json) :=
  [("deviceId", .string descriptor.device), ("model", .string descriptor.model),
    ("memoryTotalBytes", .ofUInt64 descriptor.memoryTotalBytes),
    ("memoryUsedBytes", .ofUInt64 descriptor.memoryUsedBytes),
    ("utilizationPercent", .ofOption .ofFloat descriptor.utilizationPercent),
    ("temperatureCelsius", .ofOption .ofFloat descriptor.temperatureCelsius),
    ("powerWatts", .ofOption .ofFloat descriptor.powerWatts),
    ("partition", .ofOption PartitionConfig.toJson descriptor.partition),
    ("pciBus", .ofOption .string descriptor.pciBus)]

def toJson (descriptor : DeviceDescriptor) : Json := .object descriptor.members

instance : ToJson DeviceDescriptor := ⟨toJson⟩

def ofJson? (json : Json) : Option DeviceDescriptor := do
  let record ← json.record? ["deviceId", "model", "memoryTotalBytes", "memoryUsedBytes",
    "utilizationPercent", "temperatureCelsius", "powerWatts", "partition", "pciBus"]
  let device ← record.required? "deviceId" Json.string?
  let model ← record.required? "model" Json.string?
  let memoryTotalBytes ← record.required? "memoryTotalBytes" Json.uint64?
  let memoryUsedBytes ← record.required? "memoryUsedBytes" Json.uint64?
  let utilizationPercent ← record.optional? "utilizationPercent" Json.float?
  let temperatureCelsius ← record.optional? "temperatureCelsius" Json.float?
  let powerWatts ← record.optional? "powerWatts" Json.float?
  let partition ← record.optional? "partition" PartitionConfig.ofJson?
  let pciBus ← record.optional? "pciBus" Json.string?
  pure { device, model, memoryTotalBytes, memoryUsedBytes, utilizationPercent,
         temperatureCelsius, powerWatts, partition, pciBus }

instance : OfJson DeviceDescriptor := ⟨ofJson?⟩

end DeviceDescriptor

structure DeviceFailure where
  device : String
  reason : String
  deriving DecidableEq, Repr

def DeviceFailure.toJson (failure : DeviceFailure) : Json :=
  .object [("deviceId", .string failure.device), ("reason", .string failure.reason)]

instance : ToJson DeviceFailure := ⟨DeviceFailure.toJson⟩

structure DiscoveryReport where
  source : String
  devices : List DeviceDescriptor := []
  failures : List DeviceFailure := []

namespace DiscoveryReport

def toJson (report : DiscoveryReport) : Json :=
  .object [("source", .string report.source),
    ("devices", .ofList DeviceDescriptor.toJson report.devices),
    ("failures", .ofList DeviceFailure.toJson report.failures)]

instance : ToJson DiscoveryReport := ⟨toJson⟩

/-- Puts what was read of each device into a report, with the devices in their
natural order and the failures as they came. -/
def ofResults (source : String) (results : List (Except DeviceFailure DeviceDescriptor)) :
    DiscoveryReport :=
  { source
    devices := naturalSort (·.device) (results.filterMap fun
      | .ok descriptor => some descriptor
      | .error _ => none)
    failures := results.filterMap fun
      | .ok _ => none
      | .error failure => some failure }

end DiscoveryReport

inductive DiscoveryError where
  | unavailable (reason : String)
  | commandFailed (command reason : String)
  | timeout (command : String) (limit : Duration)
  | parse (what reason : String)
  | io (path reason : String)
  | deviceNotFound (device : String)
  deriving DecidableEq, Repr

namespace DiscoveryError

def kind : DiscoveryError → String
  | unavailable _ => "Unavailable"
  | commandFailed _ _ => "CommandFailed"
  | timeout _ _ => "Timeout"
  | parse _ _ => "Parse"
  | io _ _ => "Io"
  | deviceNotFound _ => "DeviceNotFound"

def message : DiscoveryError → String
  | unavailable reason => s!"Discovery source unavailable: {reason}"
  | commandFailed command reason => s!"Command `{command}` failed: {reason}"
  | timeout command limit => s!"Command `{command}` timed out after {limit.text}"
  | parse what reason => s!"Cannot parse {what}: {reason}"
  | io path reason => s!"I/O error on {path}: {reason}"
  | deviceNotFound device => s!"Device not found: {device}"

end DiscoveryError

abbrev Discovery := Except DiscoveryError DiscoveryReport

/-- Finds one device in what a source says about all of them. A device that could
not be read is an error even if it is also listed. -/
def Discovery.describe (discovery : Discovery) (device : String) :
    Except DiscoveryError DeviceDescriptor := do
  let report ← discovery
  match report.failures.find? (·.device = device) with
  | some failure => .error (.parse device failure.reason)
  | none =>
      match report.devices.find? (·.device = device) with
      | some descriptor => .ok descriptor
      | none => .error (.deviceNotFound device)

end GpuSharing
