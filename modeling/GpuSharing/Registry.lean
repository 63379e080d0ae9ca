import GpuSharing.Discovery.Report
import GpuSharing.Keyed
import GpuSharing.Request

/-!
# The device registry

The devices of the node as last discovered, how many allocations live on each, and
whether it can take more. A device that vanished stays known while allocations
live on it.
-/

set_option autoImplicit false

namespace GpuSharing

structure RegistryConfig where
  temperatureLimit : Float := 90.0
  maxAllocations : Nat := 16
  pollInterval : Duration := .ofSeconds 30 0

structure Device where
  descriptor : DeviceDescriptor
  activeAllocations : Nat := 0
  isAvailable : Bool := false
  /-- The device was not found again but still holds allocations. -/
  missing : Bool := false
  lastRefresh : Timestamp

namespace Device

def isCool (device : Device) (config : RegistryConfig) : Bool :=
  device.descriptor.temperatureCelsius.all fun celsius => celsius ≤ config.temperatureLimit

/-- Whether the device can take an allocation, as far as its own state goes. -/
def canServe (device : Device) (config : RegistryConfig) : Bool :=
  !device.missing && device.isCool config && device.activeAllocations < config.maxAllocations

def recompute (device : Device) (config : RegistryConfig) : Device :=
  { device with isAvailable := device.canServe config }

def toJson (device : Device) : Json :=
  .object (device.descriptor.members ++
    [("activeAllocations", .ofNat device.activeAllocations),
      ("isAvailable", .bool device.isAvailable), ("missing", .bool device.missing),
      ("lastRefresh", device.lastRefresh.toJson)])

instance : ToJson Device := ⟨toJson⟩

end Device

/-- A listener for refreshes. At most one wake-up is pending at a time. -/
structure Subscription where
  id : Nat
  pending : Bool := false
  closed : Bool := false
  deriving DecidableEq, Repr

structure RefreshSummary where
  source : String
  refreshed : Nat
  added : List String
  removed : List String
  failures : List DeviceFailure
  deriving DecidableEq, Repr

def RefreshSummary.toJson (summary : RefreshSummary) : Json :=
  .object [("source", .string summary.source), ("refreshed", .ofNat summary.refreshed),
    ("added", .ofList .string summary.added), ("removed", .ofList .string summary.removed),
    ("failures", .ofList DeviceFailure.toJson summary.failures)]

instance : ToJson RefreshSummary := ⟨RefreshSummary.toJson⟩

structure DeviceRegistry where
  config : RegistryConfig
  devices : Keyed Device := .empty
  subscriptions : List Subscription := []
  nextSubscription : Nat := 0

namespace DeviceRegistry

def get (registry : DeviceRegistry) (id : String) : Outcome Device :=
  match registry.devices.get? id with
  | some device => .ok device
  | none => refuse (.notFound .device id)

def list (registry : DeviceRegistry) : List Device :=
  naturalSort (·.descriptor.device) registry.devices.values

def partition? (registry : DeviceRegistry) (id : String) : Option PartitionConfig :=
  (registry.devices.get? id).bind (·.descriptor.partition)

def isAvailable (registry : DeviceRegistry) (id : String) : Bool :=
  (registry.devices.get? id).any (·.isAvailable)

def setActive (registry : DeviceRegistry) (id : String) (count : Nat) :
    Outcome Unit × DeviceRegistry :=
  match registry.get id with
  | .error failure => (.error failure, registry)
  | .ok device =>
      let changed := { device with activeAllocations := count }.recompute registry.config
      (.ok (), { registry with devices := registry.devices.insert id changed })

/-- Enters what was read of a device. A known device keeps its allocation count. -/
def upsert (registry : DeviceRegistry) (descriptor : DeviceDescriptor) (now : Timestamp) :
    Device × DeviceRegistry :=
  let count := match registry.devices.get? descriptor.device with
    | some known => known.activeAllocations
    | none => 0
  let device : Device :=
    { descriptor, activeAllocations := count, lastRefresh := now }
  let device := device.recompute registry.config
  (device, { registry with devices := registry.devices.insert descriptor.device device })

def refreshDevice (registry : DeviceRegistry)
    (described : Except DiscoveryError DeviceDescriptor) (now : Timestamp) :
    Except DiscoveryError Device × DeviceRegistry :=
  match described with
  | .error error => (.error error, registry)
  | .ok descriptor =>
      let (device, registry) := registry.upsert descriptor now
      (.ok device, registry)

/-- Enters devices one after another and names those that are new. -/
def upsertAll (registry : DeviceRegistry) (now : Timestamp) :
    List DeviceDescriptor → List String × DeviceRegistry
  | [] => ([], registry)
  | descriptor :: rest =>
      let known := registry.devices.contains descriptor.device
      let (added, registry) := (registry.upsert descriptor now).2.upsertAll now rest
      (if known then added else descriptor.device :: added, registry)

/-- What becomes of a known device that a report does not name: it goes, unless
allocations live on it. -/
def vanish (registry : DeviceRegistry) (seen : List String) : List String × DeviceRegistry :=
  let gone (id : String) (device : Device) : Bool :=
    !seen.contains id && device.activeAllocations = 0
  let marked (id : String) (device : Device) : Device :=
    if seen.contains id then device
    else { device with missing := true }.recompute registry.config
  let removed := (registry.devices.entries.filter fun entry => gone entry.1 entry.2).map (·.1)
  (naturalSort id removed,
    { registry with
      devices := (registry.devices.filter fun id device => !gone id device).mapKeyed marked })

def notify (registry : DeviceRegistry) : DeviceRegistry :=
  let awake := (registry.subscriptions.filter (!·.closed)).map
    fun subscription => { subscription with pending := true }
  { registry with subscriptions := awake }

/-- Brings the registry in line with a report. An outage changes nothing. -/
def refreshAll (registry : DeviceRegistry) (discovery : Discovery) (now : Timestamp) :
    Except DiscoveryError RefreshSummary × DeviceRegistry :=
  match discovery with
  | .error error => (.error error, registry)
  | .ok report =>
      let seen := report.failures.map (·.device) ++ report.devices.map (·.device)
      let (added, registry) := registry.upsertAll now report.devices
      let (removed, registry) := registry.vanish seen
      (.ok { source := report.source
             refreshed := report.devices.length
             added
             removed
             failures := report.failures },
        registry.notify)

def subscribe (registry : DeviceRegistry) : Nat × DeviceRegistry :=
  let id := registry.nextSubscription
  (id,
    { registry with
      subscriptions := registry.subscriptions ++ [{ id }]
      nextSubscription := id + 1 })

/-- Whether a wake-up is pending for a listener; it is consumed. -/
def receive (registry : DeviceRegistry) (id : Nat) : Bool × DeviceRegistry :=
  let pending := registry.subscriptions.any fun subscription =>
    subscription.id = id && subscription.pending
  let calm (subscription : Subscription) : Subscription :=
    if subscription.id = id then { subscription with pending := false } else subscription
  (pending, { registry with subscriptions := registry.subscriptions.map calm })

/-- A listener leaves; it is forgotten at the next refresh. -/
def unsubscribe (registry : DeviceRegistry) (id : Nat) : DeviceRegistry :=
  let close (subscription : Subscription) : Subscription :=
    if subscription.id = id then { subscription with closed := true } else subscription
  { registry with subscriptions := registry.subscriptions.map close }

end DeviceRegistry

end GpuSharing
