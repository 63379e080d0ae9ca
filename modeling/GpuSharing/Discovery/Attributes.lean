import GpuSharing.Discovery.Source
import GpuSharing.Host.FileTree

/-!
# Discovery by attribute files

The kernel shows each card as a directory of small files. A card without a readable
memory total is a failure of that card; its other attributes may be missing. What has
no device directory is no card.
-/

set_option autoImplicit false

namespace GpuSharing.Attributes

/-- Names such as `card0`, but not `card0-DP-1`. -/
def isCardName (name : String) : Bool :=
  match name.toList with
  | 'c' :: 'a' :: 'r' :: 'd' :: digits => !digits.isEmpty && digits.all Char.isDigit
  | _ => false

def text? (files : FileTree) (path : String) : Option String :=
  ((files.readText path).toOption.map Text.trim).filter (· ≠ "")

def number {α : Type} (ofText : String → Option α) (files : FileTree) (path : String) :
    Except DiscoveryError α := do
  let content ← (files.readText path).mapError fun error => .io path error.message
  let written := Text.trim content
  match ofText written with
  | some value => pure value
  | none => .error (.parse path s!"`{written}` is not a number")

def bytes (files : FileTree) (path : String) : Except DiscoveryError UInt64 :=
  number Decimal.uint64? files path

def measure? (files : FileTree) (path : String) : Option Float :=
  (number Decimal.float? files path).toOption

/-- The partition mode in an attribute, if there is one. -/
def mode? {α : Type} (ofText : String → Except AllocationError α) (files : FileTree)
    (path : String) : Except DiscoveryError (Option α) :=
  match text? files path with
  | none => .ok none
  | some text =>
      match ofText text with
      | .ok mode => .ok (some mode)
      | .error error => .error (.parse path error.message)

def partition (files : FileTree) (directory : String) :
    Except DiscoveryError (Option PartitionConfig) := do
  match ← mode? ComputeMode.ofText files (joinPath directory "current_compute_partition") with
  | none => pure none
  | some computeMode =>
      let memory ← mode? MemoryMode.ofText files (joinPath directory "current_memory_partition")
      pure (some { computeMode, memoryMode := memory.getD .nps1 })

def sensors? (files : FileTree) (directory : String) : Option String := do
  let sensors := joinPath directory "hwmon"
  let names ← (files.listNames sensors).toOption
  names.head?.map (joinPath sensors)

/-- The temperature in degrees, from thousandths. -/
def temperature? (files : FileTree) (sensors : String) : Option Float :=
  (measure? files (joinPath sensors "temp1_input")).map (· / 1000.0)

/-- The power in watts, from millionths; the average where there is one. -/
def power? (files : FileTree) (sensors : String) : Option Float :=
  (measure? files (joinPath sensors "power1_average") <|>
    measure? files (joinPath sensors "power1_input")).map (· / 1000000.0)

def readCard (files : FileTree) (root card : String) : Except DiscoveryError DeviceDescriptor := do
  let directory := joinPath (joinPath root card) "device"
  let path := joinPath directory
  if !files.leads directory then .error (.deviceNotFound card)
  let memoryTotalBytes ← bytes files (path "mem_info_vram_total")
  let partition ← partition files directory
  let sensors := sensors? files directory
  pure
    { device := card
      model := (text? files (path "product_name")).getD DeviceDescriptor.unknownModel
      memoryTotalBytes
      memoryUsedBytes := (bytes files (path "mem_info_vram_used")).toOption.getD 0
      utilizationPercent := measure? files (path "gpu_busy_percent")
      temperatureCelsius := sensors.bind (temperature? files)
      powerWatts := sensors.bind (power? files)
      partition
      pciBus := (files.resolve directory).toOption.bind (·.name?) }

def result? (files : FileTree) (root card : String) :
    Option (Except DeviceFailure DeviceDescriptor) :=
  match readCard files root card with
  | .ok descriptor => some (.ok descriptor)
  | .error (.deviceNotFound _) => none
  | .error error => some (.error { device := card, reason := error.message })

def discover (files : FileTree) (root : String) : Discovery :=
  match files.listNames root with
  | .error .notFound => .error (.unavailable s!"{root} does not exist")
  | .error error => .error (.io root error.message)
  | .ok names => .ok (.ofResults "sysfs" ((names.filter isCardName).filterMap (result? files root)))

def describe (files : FileTree) (root card : String) : Except DiscoveryError DeviceDescriptor :=
  if isCardName card then readCard files root card else .error (.deviceNotFound card)

def source (files : FileTree) (root : String) : DiscoverySource :=
  { name := "sysfs"
    discover := discover files root
    describe := describe files root }

end GpuSharing.Attributes
