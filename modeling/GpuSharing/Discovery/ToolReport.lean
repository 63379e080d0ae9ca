import GpuSharing.Discovery.Report
import GpuSharing.Json.Reader
import GpuSharing.Keyed

/-!
# Reports of the management tool

The tool writes an object with one member for each card. A card that cannot be read
is a failure of that card alone; members of other names are skipped.
-/

set_option autoImplicit false

namespace GpuSharing.ToolReport

abbrev Fields := List (String × Json)

def modelKeys : List String := ["Card series", "Card model", "Card SKU"]
def memoryTotalKeys : List String := ["VRAM Total Memory (B)"]
def memoryUsedKeys : List String := ["VRAM Total Used Memory (B)"]
def utilizationKeys : List String := ["GPU use (%)"]
def temperatureKeys : List String :=
  ["Temperature (Sensor edge) (C)", "Temperature (Sensor junction) (C)",
    "Temperature (Sensor hotspot) (C)"]
def powerKeys : List String :=
  ["Average Graphics Package Power (W)", "Current Socket Graphics Package Power (W)"]
def computeKeys : List String := ["Compute Partition", "Accelerator Partition"]
def memoryModeKeys : List String := ["Memory Partition"]
def busKeys : List String := ["PCI Bus"]

def text? (fields : Fields) (keys : List String) : Option String :=
  keys.findSome? fun key =>
    match Json.lastMember? fields key with
    | some (.string value) => some (Text.trim value) |>.filter fun text => text ≠ "" && text ≠ "N/A"
    | _ => none

def number? {α : Type} (ofText : String → Option α) (ofNumber : Json → Option α)
    (fields : Fields) (keys : List String) : Option α :=
  keys.findSome? fun key =>
    match Json.lastMember? fields key with
    | some (.string value) => ofText (Text.trim value)
    | some value => ofNumber value
    | none => none

def bytes? (fields : Fields) (keys : List String) : Option UInt64 :=
  number? Decimal.uint64? Json.uint64? fields keys

def measure? (fields : Fields) (keys : List String) : Option Float :=
  number? Decimal.float? Json.float? fields keys

def partition (fields : Fields) : Except AllocationError (Option PartitionConfig) :=
  match text? fields computeKeys with
  | none => .ok none
  | some compute => do
      let computeMode ← ComputeMode.ofText compute
      let memoryMode ← match text? fields memoryModeKeys with
        | some memory => MemoryMode.ofText memory
        | none => .ok .nps1
      pure (some { computeMode, memoryMode })

def ofFields (card : String) (fields : Fields) : Except String DeviceDescriptor := do
  let some memoryTotalBytes := bytes? fields memoryTotalKeys
    | .error "missing or invalid VRAM total"
  let partition ← (partition fields).mapError (·.message)
  pure
    { device := card
      model := (text? fields modelKeys).getD DeviceDescriptor.unknownModel
      memoryTotalBytes
      memoryUsedBytes := (bytes? fields memoryUsedKeys).getD 0
      utilizationPercent := measure? fields utilizationKeys
      temperatureCelsius := measure? fields temperatureKeys
      powerWatts := measure? fields powerKeys
      partition
      pciBus := text? fields busKeys }

def ofEntry (card : String) : Json → Except DeviceFailure DeviceDescriptor
  | .object fields => (ofFields card fields).mapError fun reason => { device := card, reason }
  | _ => .error { device := card, reason := "card entry is not an object" }

def entries (members : List (String × Json)) : Keyed Json :=
  members.foldl (fun entries member => entries.insert member.1 member.2) .empty

def isCard (name : String) : Bool := "card".toList.isPrefixOf name.toList

def ofMembers (members : List (String × Json)) : DiscoveryReport :=
  let cards := (entries members).entries.filter fun entry => isCard entry.1
  .ofResults "rocm-smi" (cards.map fun entry => ofEntry entry.1 entry.2)

/-- The depth from which on nested values are refused. -/
def depthLimit : Nat := 128

def parse (output : String) : Discovery :=
  match Json.parse? output with
  | some (.object members) =>
      let json := Json.object members
      if json.isReadable && json.depth < depthLimit then .ok (ofMembers members)
      else .error (.parse "rocm-smi output" "a value cannot be used")
  | _ => .error (.parse "rocm-smi output" "not an object")

end GpuSharing.ToolReport
