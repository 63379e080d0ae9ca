import GpuSharing.Json.Codec
import GpuSharing.Text.Blank

/-!
# Kinds of isolation

How a workload is kept apart from the other tenants of its device.
-/

set_option autoImplicit false

namespace GpuSharing

inductive IsolationType where
  /-- Nothing beyond the accounting of shares. -/
  | shared
  | process
  | partition
  /-- Turns on an undivided device. -/
  | timeSlice
  deriving DecidableEq, Repr

namespace IsolationType

def all : List IsolationType := [shared, process, partition, timeSlice]

def name : IsolationType → String
  | shared => "shared"
  | process => "process"
  | partition => "partition"
  | timeSlice => "time-slice"

def spellings : List (String × IsolationType) :=
  [("shared", shared), ("none", shared), ("process", process), ("mps", process),
    ("partition", partition), ("time-slice", timeSlice), ("timeslice", timeSlice),
    ("time-slicing", timeSlice)]

/-- Reads a name in any case, with blanks around it. An unknown name is returned the
way it was looked up. -/
def ofText (text : String) : Except String IsolationType :=
  let name := (Text.trim text).toLower
  match spellings.find? (·.1 = name) with
  | some (_, isolation) => .ok isolation
  | none => .error name

def unknownMessage (name : String) : String := s!"unknown isolation type `{name}`"

def toJson (isolation : IsolationType) : Json := .string isolation.name

instance : ToJson IsolationType := ⟨toJson⟩

def ofJson? (json : Json) : Option IsolationType :=
  json.case? (all.map fun isolation => (isolation.name, isolation))

instance : OfJson IsolationType := ⟨ofJson?⟩

end IsolationType

end GpuSharing
