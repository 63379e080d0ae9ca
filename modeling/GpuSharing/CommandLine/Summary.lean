import GpuSharing.CommandLine.Command

/-!
# Summaries of options

How the options of a command are shown: what is configured in the end, after defaults,
environment and words have been put together and intervals of zero been raised.
-/

set_option autoImplicit false

namespace GpuSharing

def SourceChoice.title : SourceChoice → String
  | automatic => "Auto"
  | tool => "RocmSmi"
  | attributes => "Sysfs"
  | inventory => "Inventory"

instance : ToJson SourceChoice := ⟨fun choice => .string choice.title⟩

def UnpartitionedMode.title : UnpartitionedMode → String
  | fractional => "Fractional"
  | timeSliced => "TimeSliced"

instance : ToJson UnpartitionedMode := ⟨fun mode => .string mode.title⟩

instance : ToJson DiscoveryOptions :=
  ⟨fun options => .object [("source", .of options.choice), ("rocmSmiPath", .of options.toolPath),
    ("sysfsRoot", .of options.attributesRoot), ("inventoryPath", .of options.inventoryPath),
    ("timeoutMs", .of options.timeoutMs)]⟩

namespace DaemonOptions

def registrySummary (config : RegistryConfig) : Json :=
  .array [.float config.temperatureLimit, .of config.maxAllocations,
    .of config.pollInterval.wholeMilliseconds]

def policySummary (policy : AllocationPolicy) : Json :=
  .array [.of policy.sharing, .float policy.minFraction, .float policy.maxFraction,
    .of policy.allowed]

def schedulerSummary (config : SchedulerConfig) : Json :=
  .array [.of config.timeSlice.wholeMilliseconds, .of config.defaultMemoryMib]

def reservationSummary (config : ReservationConfig) : Json :=
  .array [.of config.conflictPolicy, .of config.maxDuration.wholeSeconds, .of config.maxPerUser,
    .of config.maxPerGpu, .of config.sweepInterval.wholeMilliseconds]

def isolationSummary (config : IsolationConfig) : Json :=
  .array [.of config.start, .of config.stop, .of config.health,
    .of config.limit.wholeMilliseconds, .of config.healthInterval.wholeMilliseconds,
    .of config.isEnabled]

def toJson (options : DaemonOptions) : Json :=
  .object [("daemon", .of options.discovery),
    ("registry", registrySummary options.registryConfig),
    ("unpartitioned", .of options.mode),
    ("policy", policySummary options.policy),
    ("scheduler", schedulerSummary options.schedulerConfig),
    ("rotationMs", .of options.rotationMs),
    ("sweepSecs", .of options.expirySecs),
    ("reservation", reservationSummary options.reservationConfig),
    ("isolation", isolationSummary options.isolationConfig)]

instance : ToJson DaemonOptions := ⟨toJson⟩

end DaemonOptions

def Command.toJson : Command → Json
  | .daemon options => .of options
  | .discover options pretty => .object [("discover", .of options), ("pretty", .of pretty)]

instance : ToJson Command := ⟨Command.toJson⟩

end GpuSharing
