import GpuSharing.CommandLine.Value
import GpuSharing.Isolation.Command
import GpuSharing.Service.Loops

/-!
# Options

What the daemon and the search for devices are told on the command line, the names of
all settings, and the configurations that the parts of a node make of them. Intervals
of zero are raised, since nothing can be done without a pause.
-/

set_option autoImplicit false

namespace GpuSharing

inductive SourceChoice where
  /-- The management tool, or the attribute files where the tool fails. -/
  | automatic
  | tool
  | attributes
  | inventory
  deriving DecidableEq, Repr

def SourceChoice.cases : List (String × SourceChoice) :=
  [("auto", automatic), ("rocm-smi", tool), ("sysfs", attributes), ("inventory", inventory)]

structure DiscoveryOptions where
  choice : SourceChoice := .automatic
  toolPath : String := "rocm-smi"
  attributesRoot : String := "/sys/class/drm"
  inventoryPath : Option String := none
  timeoutMs : Nat := 10000
  deriving DecidableEq, Repr

structure DaemonOptions where
  discovery : DiscoveryOptions := {}
  pollSecs : Nat := 30
  temperatureLimit : Float := 90.0
  maxAllocations : Nat := 16
  mode : UnpartitionedMode := .fractional
  timeSliceMs : Nat := 100
  defaultMemoryMib : Nat := 16384
  rotationMs : Nat := 50
  expirySecs : Nat := 30
  sharing : Bool := true
  minFraction : Float := 0.1
  maxFraction : Float := 1.0
  allowed : List IsolationType := IsolationType.all
  conflictPolicy : ConflictPolicy := .strict
  maxReservationHours : Nat := 24
  maxPerUser : Nat := 10
  maxPerGpu : Nat := 20
  sweepSecs : Nat := 60
  isolationStart : Option String := none
  isolationStop : Option String := none
  isolationHealth : Option String := none
  isolationTimeoutMs : Nat := 10000
  healthSecs : Nat := 30

namespace DiscoveryOptions

def limit (options : DiscoveryOptions) : Duration := .ofMilliseconds (max options.timeoutMs 1)

def settings : List (Setting DiscoveryOptions) :=
  [.single "discovery-source" "GPU_DISCOVERY_SOURCE" (Setting.choice SourceChoice.cases)
      fun choice options => { options with choice },
    .single "rocm-smi-path" "ROCM_SMI_PATH" Setting.path
      fun toolPath options => { options with toolPath },
    .single "sysfs-root" "GPU_SYSFS_ROOT" Setting.path
      fun attributesRoot options => { options with attributesRoot },
    .single "inventory-path" "GPU_INVENTORY_PATH" Setting.path
      fun inventoryPath options => { options with inventoryPath },
    .single "discovery-timeout-ms" "GPU_DISCOVERY_TIMEOUT_MS" Setting.word
      fun timeoutMs options => { options with timeoutMs }]

end DiscoveryOptions

namespace DaemonOptions

def registryConfig (options : DaemonOptions) : RegistryConfig :=
  { temperatureLimit := options.temperatureLimit
    maxAllocations := max options.maxAllocations 1
    pollInterval := .ofSeconds (max options.pollSecs 1) 0 }

def policy (options : DaemonOptions) : AllocationPolicy :=
  { sharing := options.sharing
    minFraction := options.minFraction
    maxFraction := options.maxFraction
    allowed := options.allowed }

def schedulerConfig (options : DaemonOptions) : SchedulerConfig :=
  { timeSlice := .ofMilliseconds (max options.timeSliceMs 1)
    defaultMemoryMib := UInt64.ofNat options.defaultMemoryMib }

def reservationConfig (options : DaemonOptions) : ReservationConfig :=
  { conflictPolicy := options.conflictPolicy
    maxDuration := .ofSeconds (options.maxReservationHours * 3600) 0
    maxPerUser := options.maxPerUser
    maxPerGpu := options.maxPerGpu
    sweepInterval := .ofSeconds (max options.sweepSecs 1) 0 }

def isolationConfig (options : DaemonOptions) : IsolationConfig :=
  { start := options.isolationStart
    stop := options.isolationStop
    health := options.isolationHealth
    limit := .ofMilliseconds options.isolationTimeoutMs
    healthInterval := .ofSeconds (max options.healthSecs 1) 0 }

def loopIntervals (options : DaemonOptions) : LoopIntervals :=
  { expiry := .ofSeconds (max options.expirySecs 1) 0
    rotation := .ofMilliseconds (max options.rotationMs 1)
    health := options.isolationConfig.healthInterval }

/-- Isolation types that are named again are added to those named before. -/
def allowedSetting : Setting DaemonOptions :=
  { name := "allowed-isolation-types"
    envName := "GPU_ALLOWED_ISOLATION_TYPES"
    repeats := true
    enter := fun again text options => do
      let named ← Setting.isolationTypes text
      pure { options with allowed := if again then options.allowed ++ named else named } }

def settings : List (Setting DaemonOptions) :=
  DiscoveryOptions.settings.map (·.within (·.discovery)
    fun discovery options => { options with discovery }) ++
  [.single "poll-interval-secs" "GPU_POLL_INTERVAL_SECS" Setting.word
      fun pollSecs options => { options with pollSecs },
    .single "temperature-limit" "GPU_TEMPERATURE_LIMIT" Setting.float
      fun temperatureLimit options => { options with temperatureLimit },
    .single "max-allocations-per-device" "GPU_MAX_ALLOCATIONS_PER_DEVICE" Setting.word
      fun maxAllocations options => { options with maxAllocations },
    .single "unpartitioned-mode" "GPU_UNPARTITIONED_MODE"
      (Setting.choice [("fractional", .fractional), ("time-sliced", .timeSliced)])
      fun mode options => { options with mode },
    .single "time-slice-ms" "GPU_TIME_SLICE_MS" Setting.word
      fun timeSliceMs options => { options with timeSliceMs },
    .single "default-memory-mib" "GPU_DEFAULT_MEMORY_MIB" Setting.word
      fun defaultMemoryMib options => { options with defaultMemoryMib },
    .single "rotation-interval-ms" "GPU_ROTATION_INTERVAL_MS" Setting.word
      fun rotationMs options => { options with rotationMs },
    .single "allocation-sweep-interval-secs" "GPU_ALLOCATION_SWEEP_INTERVAL_SECS" Setting.word
      fun expirySecs options => { options with expirySecs },
    .single "sharing-enabled" "GPU_SHARING_ENABLED" Setting.bool
      fun sharing options => { options with sharing },
    .single "min-fraction" "GPU_MIN_FRACTION" Setting.float
      fun minFraction options => { options with minFraction },
    .single "max-fraction" "GPU_MAX_FRACTION" Setting.float
      fun maxFraction options => { options with maxFraction },
    allowedSetting,
    .single "conflict-policy" "GPU_RESERVATION_CONFLICT_POLICY" Setting.conflictPolicy
      fun conflictPolicy options => { options with conflictPolicy },
    .single "max-reservation-hours" "GPU_MAX_RESERVATION_HOURS" Setting.halfWord
      fun maxReservationHours options => { options with maxReservationHours },
    .single "max-reservations-per-user" "GPU_MAX_RESERVATIONS_PER_USER" Setting.word
      fun maxPerUser options => { options with maxPerUser },
    .single "max-reservations-per-gpu" "GPU_MAX_RESERVATIONS_PER_GPU" Setting.word
      fun maxPerGpu options => { options with maxPerGpu },
    .single "reservation-sweep-interval-secs" "GPU_RESERVATION_SWEEP_INTERVAL_SECS" Setting.word
      fun sweepSecs options => { options with sweepSecs },
    .single "isolation-start-command" "GPU_ISOLATION_START_COMMAND" Setting.anyText
      fun isolationStart options => { options with isolationStart },
    .single "isolation-stop-command" "GPU_ISOLATION_STOP_COMMAND" Setting.anyText
      fun isolationStop options => { options with isolationStop },
    .single "isolation-health-command" "GPU_ISOLATION_HEALTH_COMMAND" Setting.anyText
      fun isolationHealth options => { options with isolationHealth },
    .single "isolation-timeout-ms" "GPU_ISOLATION_TIMEOUT_MS" Setting.word
      fun isolationTimeoutMs options => { options with isolationTimeoutMs },
    .single "isolation-health-interval-secs" "GPU_ISOLATION_HEALTH_INTERVAL_SECS" Setting.word
      fun healthSecs options => { options with healthSecs }]

end DaemonOptions

end GpuSharing
