import GpuSharing.Request
import GpuSharing.Share

/-!
# Allocations

A granted part of a device. Its JSON form is what a caller stores and hands back.
-/

set_option autoImplicit false

namespace GpuSharing

inductive AllocationStatus where
  | pending
  | active
  | completed
  | expired
  deriving DecidableEq, Repr

namespace AllocationStatus

def all : List AllocationStatus := [pending, active, completed, expired]

def name : AllocationStatus → String
  | pending => "pending"
  | active => "active"
  | completed => "completed"
  | expired => "expired"

def isLive : AllocationStatus → Bool
  | pending | active => true
  | completed | expired => false

def toJson (status : AllocationStatus) : Json := .string status.name

instance : ToJson AllocationStatus := ⟨toJson⟩

def ofJson? (json : Json) : Option AllocationStatus :=
  json.case? (all.map fun status => (status.name, status))

instance : OfJson AllocationStatus := ⟨ofJson?⟩

end AllocationStatus

structure GpuAllocation where
  id : String
  device : String
  workload : Workload
  share : Share
  memoryMib : UInt64
  isolation : IsolationType
  sharing : Bool
  status : AllocationStatus
  createdAt : Timestamp
  expiresAt : Option Timestamp
  /-- The compute dies that belong to it, on a device whose dies are divided. -/
  dies : List UInt8 := []
  deriving DecidableEq, Repr

namespace GpuAllocation

def ofRequest (device : String) (request : AllocationRequest) (share : Share)
    (status : AllocationStatus) (now : Timestamp) : GpuAllocation :=
  { id := request.id
    device
    workload := request.workload
    share
    memoryMib := request.memoryMib
    isolation := request.isolation
    sharing := request.sharing
    status
    createdAt := now
    expiresAt := request.expiresAt }

def isExpiredAt (allocation : GpuAllocation) (now : Timestamp) : Bool :=
  allocation.expiresAt.any fun time => time ≤ now

def fieldNames : List String :=
  ["id", "deviceId", "workload", "share", "memoryMib", "isolationType", "sharingEnabled",
    "status", "createdAt", "expiresAt", "xcdIndices"]

/-- The fields that an allocation is written with, where its workload is written as this value.
An allocation without dies of its own is written without their list. -/
def fieldsWith (allocation : GpuAllocation) (workload : Json) : List (String × Json) :=
  [("id", .string allocation.id), ("deviceId", .string allocation.device),
    ("workload", workload), ("share", allocation.share.toJson),
    ("memoryMib", .ofUInt64 allocation.memoryMib),
    ("isolationType", allocation.isolation.toJson),
    ("sharingEnabled", .bool allocation.sharing), ("status", allocation.status.toJson),
    ("createdAt", allocation.createdAt.toJson),
    ("expiresAt", .ofOption Timestamp.toJson allocation.expiresAt)] ++
  if allocation.dies.isEmpty then []
  else [("xcdIndices", .ofList (fun die => .ofNat die.toNat) allocation.dies)]

def toJson (allocation : GpuAllocation) : Json :=
  .object (allocation.fieldsWith allocation.workload.toJson)

instance : ToJson GpuAllocation := ⟨toJson⟩

def ofJson? (json : Json) : Option GpuAllocation := do
  let record ← json.record? fieldNames
  let id ← record.required? "id" Json.string?
  let device ← record.required? "deviceId" Json.string?
  let workload ← record.required? "workload" Workload.ofJson?
  let share ← record.required? "share" Share.ofJson?
  let memoryMib ← record.required? "memoryMib" Json.uint64?
  let isolation ← record.required? "isolationType" IsolationType.ofJson?
  let sharing ← record.required? "sharingEnabled" Json.bool?
  let status ← record.required? "status" AllocationStatus.ofJson?
  let createdAt ← record.required? "createdAt" Timestamp.ofJson?
  let expiresAt ← record.optional? "expiresAt" Timestamp.ofJson?
  let dies ← record.defaulted? "xcdIndices" [] (Json.list? Json.uint8?)
  pure { id, device, workload, share, memoryMib, isolation, sharing, status, createdAt,
         expiresAt, dies }

instance : OfJson GpuAllocation := ⟨ofJson?⟩

end GpuAllocation

end GpuSharing
