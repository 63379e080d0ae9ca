import GpuSharing.Request
import GpuSharing.Share

/-!
# Reservations

A reservation holds a share of a device for a window of time. The window includes
both of its ends.
-/

set_option autoImplicit false

namespace GpuSharing

inductive ReservationStatus where
  | pending
  | active
  | completed
  | cancelled
  | expired
  deriving DecidableEq, Repr

namespace ReservationStatus

def all : List ReservationStatus := [pending, active, completed, cancelled, expired]

def name : ReservationStatus → String
  | pending => "pending"
  | active => "active"
  | completed => "completed"
  | cancelled => "cancelled"
  | expired => "expired"

def isTerminal : ReservationStatus → Bool
  | pending | active => false
  | completed | cancelled | expired => true

def toJson (status : ReservationStatus) : Json := .string status.name

instance : ToJson ReservationStatus := ⟨toJson⟩

def ofJson? (json : Json) : Option ReservationStatus :=
  json.case? (all.map fun status => (status.name, status))

instance : OfJson ReservationStatus := ⟨ofJson?⟩

end ReservationStatus

/-- When reservations of one device may overlap. -/
inductive ConflictPolicy where
  /-- Never. -/
  | strict
  /-- When the later one accepts co-tenants. -/
  | flexible
  /-- Always. -/
  | overlap
  deriving DecidableEq, Repr

namespace ConflictPolicy

def default : ConflictPolicy := strict

def all : List ConflictPolicy := [strict, flexible, overlap]

def name : ConflictPolicy → String
  | strict => "strict"
  | flexible => "flexible"
  | overlap => "overlap"

/-- Whether a reservation may overlap others. -/
def permits (policy : ConflictPolicy) (sharing : Bool) : Bool :=
  match policy with
  | strict => false
  | flexible => sharing
  | overlap => true

/-- Reads a policy in any case, with blanks around it. -/
def ofText (text : String) : Except String ConflictPolicy :=
  let name := (Text.trim text).toLower
  match all.find? (·.name = name) with
  | some policy => .ok policy
  | none => .error s!"unknown conflict policy `{name}`, expected strict, flexible or overlap"

def toJson (policy : ConflictPolicy) : Json := .string policy.name

instance : ToJson ConflictPolicy := ⟨toJson⟩

def ofJson? (json : Json) : Option ConflictPolicy :=
  json.case? (all.map fun policy => (policy.name, policy))

instance : OfJson ConflictPolicy := ⟨ofJson?⟩

end ConflictPolicy

structure ReservationConfig where
  conflictPolicy : ConflictPolicy := .strict
  maxDuration : Duration := .ofSeconds 86400 0
  maxPerUser : Nat := 10
  maxPerGpu : Nat := 20
  sweepInterval : Duration := .ofSeconds 60 0
  deriving DecidableEq, Repr

structure ReservationRequest where
  user : String
  workload : String
  gpu : String
  fraction : Float := 1.0
  memoryMib : UInt64 := 0
  start : Timestamp
  duration : Duration
  priority : Int := 0
  isolation : IsolationType := .shared
  sharing : Bool := false

/-- What an update changes; the other fields keep their values. -/
structure ReservationPatch where
  workload : Option String := none
  fraction : Option Float := none
  memoryMib : Option UInt64 := none
  start : Option Timestamp := none
  duration : Option Duration := none
  priority : Option Int := none
  isolation : Option IsolationType := none
  sharing : Option Bool := none

structure Reservation where
  id : String
  user : String
  workload : String
  gpu : String
  fraction : Share
  memoryMib : UInt64
  start : Timestamp
  finish : Timestamp
  priority : Int
  status : ReservationStatus
  isolation : IsolationType
  sharing : Bool
  createdAt : Timestamp
  updatedAt : Timestamp
  deriving DecidableEq, Repr

namespace Reservation

def duration (reservation : Reservation) : Duration :=
  reservation.finish.since reservation.start

def overlaps (reservation : Reservation) (start finish : Timestamp) : Bool :=
  !(finish < reservation.start || reservation.finish < start)

/-- Whether the reservation still claims its window. -/
def isLive (reservation : Reservation) : Bool := !reservation.status.isTerminal

def toJson (reservation : Reservation) : Json :=
  .object [("id", .string reservation.id), ("userId", .string reservation.user),
    ("workloadId", .string reservation.workload), ("gpuId", .string reservation.gpu),
    ("fraction", reservation.fraction.toJson), ("memoryMib", .ofUInt64 reservation.memoryMib),
    ("startTime", reservation.start.toJson), ("endTime", reservation.finish.toJson),
    ("priority", .integer reservation.priority), ("status", reservation.status.toJson),
    ("isolationType", reservation.isolation.toJson),
    ("sharingEnabled", .bool reservation.sharing),
    ("createdAt", reservation.createdAt.toJson), ("updatedAt", reservation.updatedAt.toJson)]

instance : ToJson Reservation := ⟨toJson⟩

end Reservation

structure ReservationStats where
  pending : Nat := 0
  active : Nat := 0
  completed : Nat := 0
  cancelled : Nat := 0
  expired : Nat := 0
  deriving DecidableEq, Repr

namespace ReservationStats

def total (stats : ReservationStats) : Nat :=
  stats.pending + stats.active + stats.completed + stats.cancelled + stats.expired

def ofReservations (reservations : List Reservation) : ReservationStats :=
  let count (status : ReservationStatus) : Nat :=
    (reservations.filter (·.status = status)).length
  { pending := count .pending
    active := count .active
    completed := count .completed
    cancelled := count .cancelled
    expired := count .expired }

def toJson (stats : ReservationStats) : Json :=
  .object [("pending", .ofNat stats.pending), ("active", .ofNat stats.active),
    ("completed", .ofNat stats.completed), ("cancelled", .ofNat stats.cancelled),
    ("expired", .ofNat stats.expired)]

instance : ToJson ReservationStats := ⟨toJson⟩

end ReservationStats

end GpuSharing
