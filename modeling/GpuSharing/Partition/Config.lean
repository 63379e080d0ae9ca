import GpuSharing.Error
import GpuSharing.Json.Codec
import GpuSharing.Share
import GpuSharing.Text.Blank

/-!
# Partition modes

How a device divides its eight compute dies (XCDs) and its memory, which fractions
of it can be asked for in each mode, and which modes go together.
-/

set_option autoImplicit false

namespace GpuSharing

def dieCount : Nat := 8

inductive ComputeMode where
  /-- The whole device is one unit. -/
  | spx
  /-- Every die is a unit of its own. -/
  | cpx
  /-- Thirds of the device. -/
  | tpx
  deriving DecidableEq, Repr

inductive MemoryMode where
  | nps1
  | nps4
  deriving DecidableEq, Repr

namespace ComputeMode

def all : List ComputeMode := [spx, cpx, tpx]

def name : ComputeMode → String
  | spx => "SPX"
  | cpx => "CPX"
  | tpx => "TPX"

instance : ToString ComputeMode := ⟨name⟩

/-- Reads a mode in any case, with blanks around it. -/
def ofText (text : String) : Except AllocationError ComputeMode :=
  let name := (Text.trim text).toUpper
  match all.find? (·.name = name) with
  | some mode => .ok mode
  | none => .error (.validation s!"unknown compute partition mode `{name}`")

def toJson (mode : ComputeMode) : Json := .string mode.name

instance : ToJson ComputeMode := ⟨toJson⟩

def ofJson? (json : Json) : Option ComputeMode :=
  json.case? (all.map fun mode => (mode.name, mode))

instance : OfJson ComputeMode := ⟨ofJson?⟩

def validFractions : ComputeMode → List Float
  | spx => [1.0]
  | cpx => [0.125, 0.25, 0.375, 0.5, 0.625, 0.75, 0.875, 1.0]
  | tpx => [1.0 / 3.0, 2.0 / 3.0, 1.0]

/-- How far a request may be from a valid fraction. -/
def fractionTolerance : Float := 0.001

/-- The share of the first valid fraction that a request comes close to. -/
def shareOf (mode : ComputeMode) (fraction : Float) : Outcome Share :=
  match mode.validFractions.find? fun valid => (fraction - valid).abs ≤ fractionTolerance with
  | some valid => .ok (.nearest valid)
  | none =>
      let asked := Share.fractionText fraction
      let expected := ", ".intercalate (mode.validFractions.map fun valid => (Share.nearest valid).text)
      refuse (.validation s!"fraction {asked} is not valid in {mode} mode, expected one of [{expected}]")

end ComputeMode

namespace MemoryMode

def all : List MemoryMode := [nps1, nps4]

def name : MemoryMode → String
  | nps1 => "NPS1"
  | nps4 => "NPS4"

instance : ToString MemoryMode := ⟨name⟩

def ofText (text : String) : Except AllocationError MemoryMode :=
  let name := (Text.trim text).toUpper
  match all.find? (·.name = name) with
  | some mode => .ok mode
  | none => .error (.validation s!"unknown memory partition mode `{name}`")

def toJson (mode : MemoryMode) : Json := .string mode.name

instance : ToJson MemoryMode := ⟨toJson⟩

def ofJson? (json : Json) : Option MemoryMode :=
  json.case? (all.map fun mode => (mode.name, mode))

instance : OfJson MemoryMode := ⟨ofJson?⟩

end MemoryMode

structure PartitionConfig where
  computeMode : ComputeMode
  memoryMode : MemoryMode
  dies : UInt8 := 8
  deriving DecidableEq, Repr

namespace PartitionConfig

def validate (config : PartitionConfig) : Outcome Unit := do
  require (config.dies.toNat = dieCount)
    (.validation s!"xcd_count must be {dieCount}, got {config.dies}")
  require (¬(config.computeMode = .spx ∧ config.memoryMode = .nps4))
    (.policyViolation "SPX compute mode is incompatible with NPS4 memory mode")

def text (config : PartitionConfig) : String :=
  config.computeMode.name ++ "/" ++ config.memoryMode.name

instance : ToString PartitionConfig := ⟨text⟩

def toJson (config : PartitionConfig) : Json :=
  .object [("computeMode", config.computeMode.toJson), ("memoryMode", config.memoryMode.toJson),
    ("xcdCount", .ofNat config.dies.toNat)]

instance : ToJson PartitionConfig := ⟨toJson⟩

def ofJson? (json : Json) : Option PartitionConfig := do
  let record ← json.record? ["computeMode", "memoryMode", "xcdCount"]
  let computeMode ← record.required? "computeMode" ComputeMode.ofJson?
  let memoryMode ← record.required? "memoryMode" MemoryMode.ofJson?
  let dies ← record.defaulted? "xcdCount" 8 Json.uint8?
  pure { computeMode, memoryMode, dies }

instance : OfJson PartitionConfig := ⟨ofJson?⟩

end PartitionConfig

end GpuSharing
