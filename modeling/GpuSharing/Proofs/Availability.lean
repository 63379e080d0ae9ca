import GpuSharing.Proofs.Registry

/-!
# Availability is never stale

A registry does not work out whether a device is available when it is asked. It keeps the answer
with the device and works it out anew where a device is entered, marked as missing or counted. An
outage, a failed reading and a reading of another device leave both the state and the answer
alone. So the answer always fits the state, whatever has been reported.
-/

set_option autoImplicit false

namespace GpuSharing

namespace Device

variable {device : Device} {config : RegistryConfig}

/-- A temperature that is no number is at most no limit. -/
theorem isCool_iff : device.isCool config = true ↔
    device.descriptor.temperatureCelsius = none ∨
      ∃ celsius, device.descriptor.temperatureCelsius = some celsius ∧
        celsius ≤ config.temperatureLimit := by
  unfold isCool
  cases device.descriptor.temperatureCelsius with
  | none => simp
  | some celsius => simp

example (device : Device) (hot : device.descriptor.temperatureCelsius = some (0.0 / 0.0)) :
    device.isCool {} = false := by
  rw [isCool, hot]
  decide +kernel

theorem canServe_iff : device.canServe config = true ↔
    device.missing = false ∧
      (device.descriptor.temperatureCelsius = none ∨
        ∃ celsius, device.descriptor.temperatureCelsius = some celsius ∧
          celsius ≤ config.temperatureLimit) ∧
      device.activeAllocations < config.maxAllocations := by
  rw [← isCool_iff, canServe, Bool.and_eq_true, Bool.and_eq_true, Bool.not_eq_true',
    decide_eq_true_eq, and_assoc]

end Device

namespace DeviceRegistry

variable {registry : DeviceRegistry}

/-- The ways in which a registry is told of its devices. -/
inductive Operation where
  | refreshAll (discovery : Discovery) (now : Timestamp)
  | refreshDevice (described : Except DiscoveryError DeviceDescriptor) (now : Timestamp)
  | setActive (id : String) (count : Nat)

def perform (registry : DeviceRegistry) : Operation → DeviceRegistry
  | .refreshAll discovery now => (registry.refreshAll discovery now).2
  | .refreshDevice described now => (registry.refreshDevice described now).2
  | .setActive id count => (registry.setActive id count).2

def run (registry : DeviceRegistry) (operations : List Operation) : DeviceRegistry :=
  operations.foldl perform registry

/-- No operation changes the limits. -/
theorem config_perform (registry : DeviceRegistry) (operation : Operation) :
    (registry.perform operation).config = registry.config := by
  cases operation with
  | refreshAll discovery now => exact registry.config_refreshAll discovery now
  | refreshDevice described now => exact registry.config_refreshDevice described now
  | setActive id count => exact registry.config_setActive id count

theorem config_run (registry : DeviceRegistry) (operations : List Operation) :
    (registry.run operations).config = registry.config := by
  induction operations generalizing registry with
  | nil => rfl
  | cons operation rest ih => exact (ih _).trans (registry.config_perform operation)

theorem Assessed.perform (assessed : registry.Assessed) (operation : Operation) :
    (registry.perform operation).Assessed := by
  cases operation with
  | refreshAll discovery now => exact assessed.refreshAll discovery now
  | refreshDevice described now => exact assessed.refreshDevice described now
  | setActive id count => exact assessed.setActive id count

theorem Assessed.run (assessed : registry.Assessed) (operations : List Operation) :
    (registry.run operations).Assessed := by
  induction operations generalizing registry with
  | nil => exact assessed
  | cons operation rest ih => exact ih (assessed.perform operation)

/-- What a registry answers about a device is what it keeps with it. -/
theorem isAvailable_of_get {id : String} {device : Device} (known : registry.get id = .ok device) :
    registry.isAvailable id = device.isAvailable := by
  rw [isAvailable, get_eq_ok.mp known, Option.any_some]

/-- After any run of a new registry, a device that it knows counts as available exactly if it is
not missing, is not known to be too hot and has room for another allocation. -/
theorem run_isAvailable_iff (config : RegistryConfig) (operations : List Operation) {id : String}
    {device : Device} (known : (run { config } operations).get id = .ok device) :
    (run { config } operations).isAvailable id = device.isAvailable ∧
      (device.isAvailable = true ↔
        device.missing = false ∧
          (device.descriptor.temperatureCelsius = none ∨
            ∃ celsius, device.descriptor.temperatureCelsius = some celsius ∧
              celsius ≤ config.temperatureLimit) ∧
          device.activeAllocations < config.maxAllocations) := by
  have assessed := (assessed_new config).run operations
  have answered := (assessed id device (get_eq_ok.mp known)).2
  rw [config_run] at answered
  refine ⟨isAvailable_of_get known, ?_⟩
  rw [answered]
  exact Device.canServe_iff

/-- A device that is not too warm. -/
def coolDevice : DeviceDescriptor :=
  { device := "card0"
    model := "MI300X"
    memoryTotalBytes := mibToBytes 8192
    temperatureCelsius := some 40.0 }

/-- One device is reported while it is cool, is given an allocation, and is not reported again. -/
def goneWhileBusy : List Operation :=
  [.refreshAll (.ok { source := "static", devices := [coolDevice] }) ⟨1700000000, 0⟩,
    .setActive "card0" 1,
    .refreshAll (.error (.unavailable "no driver")) ⟨1700000030, 0⟩,
    .refreshAll (.ok { source := "static" }) ⟨1700000060, 0⟩]

/-- The device stays known, and is no longer available. -/
theorem isAvailable_goneWhileBusy :
    ∃ device, (run { config := {} } goneWhileBusy).get "card0" = .ok device ∧
      device.isAvailable = false ∧
      (run { config := {} } goneWhileBusy).isAvailable "card0" = device.isAvailable ∧
      (device.isAvailable = true ↔
        device.missing = false ∧
          (device.descriptor.temperatureCelsius = none ∨
            ∃ celsius, device.descriptor.temperatureCelsius = some celsius ∧
              celsius ≤ ({} : RegistryConfig).temperatureLimit) ∧
          device.activeAllocations < ({} : RegistryConfig).maxAllocations) :=
  ⟨_, rfl, rfl, run_isAvailable_iff {} goneWhileBusy rfl⟩

end DeviceRegistry

end GpuSharing
