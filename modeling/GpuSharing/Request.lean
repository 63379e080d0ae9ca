import GpuSharing.Isolation.Kind
import GpuSharing.Time.Rfc3339
import GpuSharing.Workload

/-!
# Requests

What a workload asks for, and the request for one allocation that is made of it.
-/

set_option autoImplicit false

namespace GpuSharing

namespace Timestamp

def toJson (time : Timestamp) : Json := .string time.toRfc3339

instance : ToJson Timestamp := ⟨toJson⟩

def ofJson? (json : Json) : Option Timestamp := json.string?.bind ofRfc3339?

instance : OfJson Timestamp := ⟨ofJson?⟩

end Timestamp

/-- A span in a snapshot: its whole seconds and the nanoseconds after them. -/
def Duration.toJson (duration : Duration) : Json :=
  .object [("secs", .integer duration.wholeSeconds), ("nanos", .integer duration.subsecondNanos)]

instance : ToJson Duration := ⟨Duration.toJson⟩

structure GpuRequest where
  fraction : Float := 1.0
  memoryMib : UInt64 := 0
  /-- The workload accepts co-tenants on its device. -/
  sharing : Bool := false
  isolation : IsolationType := .shared

namespace GpuRequest

def toJson (request : GpuRequest) : Json :=
  .object [("fraction", .ofFloat request.fraction), ("memoryMib", .ofUInt64 request.memoryMib),
    ("sharingEnabled", .bool request.sharing), ("isolationType", request.isolation.toJson)]

instance : ToJson GpuRequest := ⟨toJson⟩

def ofJson? (json : Json) : Option GpuRequest := do
  let record ← json.record? ["fraction", "memoryMib", "sharingEnabled", "isolationType"]
  let fraction ← record.required? "fraction" Json.float?
  let memoryMib ← record.required? "memoryMib" Json.uint64?
  let sharing ← record.required? "sharingEnabled" Json.bool?
  let isolation ← record.required? "isolationType" IsolationType.ofJson?
  pure { fraction, memoryMib, sharing, isolation }

instance : OfJson GpuRequest := ⟨ofJson?⟩

end GpuRequest

structure AllocationRequest where
  id : String
  workload : Workload
  fraction : Float
  memoryMib : UInt64
  isolation : IsolationType
  sharing : Bool
  expiresAt : Option Timestamp := none

namespace AllocationRequest

/-- The allocation request of a workload, which never expires. -/
def ofGpuRequest (id : String) (workload : Workload) (request : GpuRequest) : AllocationRequest :=
  { id, workload
    fraction := request.fraction
    memoryMib := request.memoryMib
    isolation := request.isolation
    sharing := request.sharing }

def withExpiry (request : AllocationRequest) (time : Timestamp) : AllocationRequest :=
  { request with expiresAt := some time }

/-- Lets the allocation expire a span after the request is made. -/
def withLifetime (request : AllocationRequest) (now : Timestamp) (lifetime : Duration) :
    AllocationRequest :=
  request.withExpiry (now.advance lifetime)

def toJson (request : AllocationRequest) : Json :=
  .object [("id", .string request.id), ("workload", request.workload.toJson),
    ("fraction", .ofFloat request.fraction), ("memoryMib", .ofUInt64 request.memoryMib),
    ("isolationType", request.isolation.toJson), ("sharingEnabled", .bool request.sharing),
    ("expiresAt", .ofOption Timestamp.toJson request.expiresAt)]

instance : ToJson AllocationRequest := ⟨toJson⟩

def ofJson? (json : Json) : Option AllocationRequest := do
  let record ← json.record? ["id", "workload", "fraction", "memoryMib", "isolationType",
    "sharingEnabled", "expiresAt"]
  let id ← record.required? "id" Json.string?
  let workload ← record.required? "workload" Workload.ofJson?
  let fraction ← record.required? "fraction" Json.float?
  let memoryMib ← record.required? "memoryMib" Json.uint64?
  let isolation ← record.required? "isolationType" IsolationType.ofJson?
  let sharing ← record.required? "sharingEnabled" Json.bool?
  let expiresAt ← record.optional? "expiresAt" Timestamp.ofJson?
  pure { id, workload, fraction, memoryMib, isolation, sharing, expiresAt }

instance : OfJson AllocationRequest := ⟨ofJson?⟩

end AllocationRequest

end GpuSharing
