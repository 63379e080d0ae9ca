import GpuSharing.Keyed
import GpuSharing.Policy
import GpuSharing.Reservation.Basic

/-!
# The book of reservations

Reservations are created, changed and finished under limits on their number and
length and under a policy on overlaps. Records are never removed.
-/

set_option autoImplicit false

namespace GpuSharing

structure ReservationBook where
  config : ReservationConfig
  records : Keyed Reservation := .empty
  deriving DecidableEq, Repr

namespace ReservationBook

def get (book : ReservationBook) (id : String) : Outcome Reservation :=
  match book.records.get? id with
  | some reservation => .ok reservation
  | none => refuse (.notFound .reservation id)

def store (book : ReservationBook) (reservation : Reservation) : ReservationBook :=
  { book with records := book.records.insert reservation.id reservation }

def conflicts (book : ReservationBook) (gpu : String) (start finish : Timestamp)
    (except : Option String) : List Reservation :=
  book.records.values.filter fun existing =>
    existing.gpu = gpu && existing.isLive && some existing.id ≠ except &&
      existing.overlaps start finish

def liveCount (book : ReservationBook) (accepts : Reservation → Bool) : Nat :=
  (book.records.values.filter fun reservation =>
    reservation.isLive && accepts reservation).length

/-- A name that no record has: the plain one, or the first numbered one. -/
def nextId (book : ReservationBook) (user gpu : String) (now : Timestamp) : String :=
  let base := s!"res-{user}-{gpu}-{now.seconds}"
  if book.records.contains base then
    let numbered := (List.range (book.records.size + 1)).map fun n => s!"{base}-{n + 1}"
    (numbered.find? fun candidate => !book.records.contains candidate).getD base
  else base

def validateDuration (book : ReservationBook) (duration : Duration) : Outcome Unit := do
  require (.zero < duration) (.validation "reservation duration must be positive")
  let asked := duration.wholeSeconds
  let greatest := book.config.maxDuration.wholeSeconds
  require (duration ≤ book.config.maxDuration)
    (.validation s!"reservation duration {asked}s exceeds the maximum of {greatest}s")

def validateWindow (book : ReservationBook) (start : Timestamp) (duration : Duration)
    (now : Timestamp) : Outcome Unit := do
  book.validateDuration duration
  require (now ≤ start) (.validation s!"start time {start.display} is in the past")

/-- The end of a window, which must be a time that can be represented. -/
def endOfWindow (start : Timestamp) (duration : Duration) : Outcome Timestamp :=
  match start.add? duration with
  | some finish => .ok finish
  | none =>
      refuse (.validation
        s!"reservation starting at {start.display} cannot last {duration.wholeSeconds}s")

def checkCaps (book : ReservationBook) (user gpu : String) : Outcome Unit := do
  let ofUser := book.liveCount (·.user = user)
  require (ofUser < book.config.maxPerUser)
    (.limitExceeded s!"user {user} already holds {ofUser} reservations")
  let ofGpu := book.liveCount (·.gpu = gpu)
  require (ofGpu < book.config.maxPerGpu)
    (.limitExceeded s!"gpu {gpu} already has {ofGpu} reservations")

/-- Refuses a window that overlaps others where the policy does not permit it. -/
def checkConflicts (book : ReservationBook) (gpu : String) (start finish : Timestamp)
    (sharing : Bool) (except : Option String) : Outcome Unit :=
  let ids := (book.conflicts gpu start finish except).map (·.id)
  if ids = [] ∨ book.config.conflictPolicy.permits sharing then .ok ()
  else
    let names := ", ".intercalate ids
    .error
      { error := .conflict gpu s!"overlaps {names}"
        notes := [s!"conflict policy: {book.config.conflictPolicy.name}"] }

def draft (book : ReservationBook) (request : ReservationRequest) (now : Timestamp) :
    Outcome Reservation := do
  requireFields [("user_id", request.user), ("workload_id", request.workload),
    ("gpu_id", request.gpu)]
  let fraction ← Share.ofFraction request.fraction
  book.validateWindow request.start request.duration now
  let finish ← endOfWindow request.start request.duration
  book.checkCaps request.user request.gpu
  book.checkConflicts request.gpu request.start finish request.sharing none
  pure { id := book.nextId request.user request.gpu now
         user := request.user
         workload := request.workload
         gpu := request.gpu
         fraction
         memoryMib := request.memoryMib
         start := request.start
         finish
         priority := request.priority
         status := if request.start ≤ now then .active else .pending
         isolation := request.isolation
         sharing := request.sharing
         createdAt := now
         updatedAt := now }

def create (book : ReservationBook) (request : ReservationRequest) (now : Timestamp) :
    Outcome Reservation × ReservationBook :=
  match book.draft request now with
  | .error failure => (.error failure, book)
  | .ok reservation => (.ok reservation, book.store reservation)

def requireLive (reservation : Reservation) : Outcome Unit :=
  require (reservation.isLive)
    (.validation s!"reservation {reservation.id} is already {reservation.status.name}")

/-- Moves the window of a record. Only a new start has to lie ahead. -/
def moved (book : ReservationBook) (reservation : Reservation) (patch : ReservationPatch)
    (now : Timestamp) : Outcome Reservation := do
  if patch.start.isNone && patch.duration.isNone then pure reservation
  else
    let start := patch.start.getD reservation.start
    let duration := patch.duration.getD reservation.duration
    if patch.start.isSome then book.validateWindow start duration now
    else book.validateDuration duration
    let finish ← endOfWindow start duration
    let status :=
      if reservation.status = .pending ∧ start ≤ now then .active else reservation.status
    pure { reservation with start, finish, status }

def patched (book : ReservationBook) (current : Reservation) (patch : ReservationPatch)
    (now : Timestamp) : Outcome Reservation := do
  requireLive current
  let fraction ← match patch.fraction with
    | some fraction => Share.ofFraction fraction
    | none => pure current.fraction
  let updated ← book.moved
    { current with
      workload := patch.workload.getD current.workload
      fraction
      memoryMib := patch.memoryMib.getD current.memoryMib
      priority := patch.priority.getD current.priority
      isolation := patch.isolation.getD current.isolation
      sharing := patch.sharing.getD current.sharing }
    patch now
  let windowChanged := patch.start.isSome || patch.duration.isSome
  if windowChanged || (current.sharing && !updated.sharing) then
    book.checkConflicts updated.gpu updated.start updated.finish updated.sharing (some current.id)
  pure { updated with updatedAt := now }

def update (book : ReservationBook) (id : String) (patch : ReservationPatch) (now : Timestamp) :
    Outcome Reservation × ReservationBook :=
  match book.get id >>= fun current => book.patched current patch now with
  | .error failure => (.error failure, book)
  | .ok reservation => (.ok reservation, book.store reservation)

/-- Gives a live record its last status. -/
def conclude (book : ReservationBook) (id : String) (status : ReservationStatus)
    (now : Timestamp) : Outcome Reservation × ReservationBook :=
  let result := do
    let current ← book.get id
    requireLive current
    pure { current with status, updatedAt := now }
  match result with
  | .error failure => (.error failure, book)
  | .ok reservation => (.ok reservation, book.store reservation)

def cancel (book : ReservationBook) (id : String) (now : Timestamp) :
    Outcome Reservation × ReservationBook :=
  book.conclude id .cancelled now

def complete (book : ReservationBook) (id : String) (now : Timestamp) :
    Outcome Reservation × ReservationBook :=
  book.conclude id .completed now

/-- Earlier windows come first, then lower names. -/
def listOrder (a b : Reservation) : Bool :=
  a.start < b.start || (a.start = b.start && a.id ≤ b.id)

def listWhere (book : ReservationBook) (accepts : Reservation → Bool) : List Reservation :=
  (book.records.values.filter accepts).mergeSort listOrder

def listAll (book : ReservationBook) : List Reservation := book.listWhere fun _ => true

def listByUser (book : ReservationBook) (user : String) : List Reservation :=
  book.listWhere (·.user = user)

def listByGpu (book : ReservationBook) (gpu : String) : List Reservation :=
  book.listWhere (·.gpu = gpu)

def stats (book : ReservationBook) : ReservationStats := .ofReservations book.records.values

end ReservationBook

end GpuSharing
