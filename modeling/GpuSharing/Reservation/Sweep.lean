import GpuSharing.Reservation.Book

/-!
# The reservation sweep

At a point in time, live reservations whose window is over expire, and pending ones
whose window has begun become active.
-/

set_option autoImplicit false

namespace GpuSharing

/-- What a sweep changed, by name. -/
structure SweepOutcome where
  activated : List String
  expired : List String
  deriving DecidableEq, Repr

def SweepOutcome.isEmpty (outcome : SweepOutcome) : Bool :=
  outcome.activated.isEmpty && outcome.expired.isEmpty

namespace Reservation

def isOverAt (reservation : Reservation) (now : Timestamp) : Bool :=
  reservation.isLive && reservation.finish ≤ now

def isDueAt (reservation : Reservation) (now : Timestamp) : Bool :=
  reservation.status = .pending && reservation.start ≤ now && now < reservation.finish

def swept (reservation : Reservation) (now : Timestamp) : Reservation :=
  if reservation.isOverAt now then { reservation with status := .expired, updatedAt := now }
  else if reservation.isDueAt now then { reservation with status := .active, updatedAt := now }
  else reservation

/-- Earlier windows come first, then higher priorities, then lower names. -/
def activationOrder (a b : Reservation) : Bool :=
  a.start < b.start || (a.start = b.start &&
    (b.priority < a.priority || (a.priority = b.priority && a.id ≤ b.id)))

end Reservation

/-- How soon a reservation is to be activated: the earlier its window and then the higher its
priority, the sooner. -/
structure Urgency where
  start : Timestamp
  priority : Int
  deriving DecidableEq, Repr

namespace Urgency

/-- The second is at least as urgent. -/
protected def le (a b : Urgency) : Prop :=
  b.start < a.start ∨ (a.start = b.start ∧ a.priority ≤ b.priority)

instance : LE Urgency := ⟨Urgency.le⟩
instance (a b : Urgency) : Decidable (a ≤ b) := inferInstanceAs (Decidable (_ ∨ (_ ∧ _)))

end Urgency

def Reservation.urgency (reservation : Reservation) : Urgency :=
  ⟨reservation.start, reservation.priority⟩

/-- A queue that gives out a most urgent entry first. Which one of several that are equally
urgent is its own affair, and so is how it keeps them. -/
structure DueQueue where
  State : Type
  empty : State
  push : State → String → Urgency → State
  pop : State → Option (String × State)
  /-- What waits in the queue, in whatever order. -/
  entries : State → List (String × Urgency)
  entries_empty : entries empty = []
  entries_push : ∀ state id urgency, id ∉ (entries state).map (·.1) →
    (entries (push state id urgency)).Perm ((id, urgency) :: entries state)
  entries_of_none : ∀ state, pop state = none → entries state = []
  entries_of_some : ∀ state id rest, pop state = some (id, rest) →
    ∃ urgency, (entries state).Perm ((id, urgency) :: entries rest) ∧
      ∀ other ∈ entries state, other.2 ≤ urgency

namespace DueQueue

/-- Everything that waits, as it is given out. -/
def drain (queue : DueQueue) (state : queue.State) : List String :=
  match _popped : queue.pop state with
  | none => []
  | some (id, rest) => id :: queue.drain rest
termination_by (queue.entries state).length
decreasing_by
  obtain ⟨_, same, _⟩ := queue.entries_of_some state id rest _popped
  rw [same.length_eq, List.length_cons]
  exact Nat.lt_succ_self _

end DueQueue

namespace ReservationBook

/-- A sweep that queues what is due: first everything expires that is over, then the queue
decides who is activated next. -/
def sweepWith (queue : DueQueue) (book : ReservationBook) (now : Timestamp) :
    SweepOutcome × ReservationBook :=
  let records := book.records.values
  let due := (records.filter (·.isDueAt now)).foldl
    (fun state record => queue.push state record.id record.urgency) queue.empty
  let activated := queue.drain due
  let ended := book.records.map fun record =>
    if record.isOverAt now then { record with status := .expired, updatedAt := now } else record
  let begun := activated.foldl (fun records id => records.modify id fun record =>
    { record with status := .active, updatedAt := now }) ended
  (⟨activated, (records.filter (·.isOverAt now)).map (·.id)⟩, { book with records := begun })

/-- The sweep in which names decide between the equally urgent. -/
def sweep (book : ReservationBook) (now : Timestamp) : SweepOutcome × ReservationBook :=
  let records := book.records.values
  let due := (records.filter (·.isDueAt now)).mergeSort Reservation.activationOrder
  (⟨due.map (·.id), (records.filter (·.isOverAt now)).map (·.id)⟩,
    { book with records := book.records.map (·.swept now) })

end ReservationBook

end GpuSharing
