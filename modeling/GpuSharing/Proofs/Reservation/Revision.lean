import GpuSharing.Proofs.Reservation.Windows

/-!
# Revisions

An update that fails leaves the book as it was. One that succeeds revises the record of its
name and no other, and what the patch leaves out stays: a record that only moves keeps its
length, unless its new window starts in a leap second that it loses.
-/

set_option autoImplicit false

namespace GpuSharing

/-- The window is as long as asked. The second that it loses where it starts in a leap second is
gone for good, as a later move asks for the length that is left. -/
def Reservation.LastsAsAsked (reservation : Reservation) (asked : Duration) : Prop :=
  reservation.duration.nanos =
    asked.nanos - if reservation.start.losesLeap asked then nanosPerSecond else 0

namespace ReservationBook

variable {book : ReservationBook} {id : String} {current updated : Reservation}
  {patch : ReservationPatch} {now : Timestamp}

/-- A window that changes is as long as the patch asks, or as it was. -/
theorem Revises.lastsAsAsked (revises : book.Revises current patch now updated)
    (changed : patch.start ≠ none ∨ patch.duration ≠ none) :
    updated.LastsAsAsked (patch.duration.getD current.duration) := by
  obtain ⟨valid, ends⟩ := revises.window changed
  obtain ⟨positive, _⟩ := validateDuration_eq_ok.mp valid
  rw [Reservation.LastsAsAsked, Reservation.duration, Timestamp.add?_eq_some ends]
  exact updated.start.nanos_since_advance positive

/-- What a successful update does to a book. -/
structure Updated (book next : ReservationBook) (id : String) (patch : ReservationPatch)
    (now : Timestamp) (updated : Reservation) : Prop where
  config_eq : next.config = book.config
  records_eq : ∀ other, next.records.get? other =
    if other = id then some updated else book.records.get? other
  revised : ∃ current, book.records.get? id = some current ∧
    book.Revises current patch now updated ∧
    (patch.start ≠ none ∨ patch.duration ≠ none →
      updated.LastsAsAsked (patch.duration.getD current.duration))

theorem Filed.updates (filed : book.Filed) (found : book.records.get? id = some current)
    (revises : book.Revises current patch now updated) :
    book.Updated (book.store updated) id patch now updated where
  config_eq := rfl
  records_eq other := by rw [get?_store, revises.id_eq, filed id current found]
  revised := ⟨current, found, revises, revises.lastsAsAsked⟩

/-- In every state of a book its records are well formed, and an update either fails and leaves
no trace, or writes one record as its patch says. -/
theorem run_updates (config : ReservationConfig) (operations : List Operation) (id : String)
    (patch : ReservationPatch) (now : Timestamp) :
    let book := ({ config } : ReservationBook).run operations
    (∀ id record, book.records.get? id = some record → record.WellFormed config) ∧
    match book.update id patch now with
    | (.error _, next) => next = book
    | (.ok updated, next) => book.Updated next id patch now updated := by
  intro book
  have filed : book.Filed := (filed_new config).run operations
  have wellFormed : book.WellFormed := (wellFormed_new config).run operations
  have limits : book.config = config := config_run { config } operations
  constructor
  · exact fun id record found => limits ▸ wellFormed id record found
  · rcases book.update_cases id patch now with
      ⟨_, refused⟩ | ⟨current, updated, found, revises, done⟩
    · rw [refused]
    · rw [done]
      exact filed.updates found revises

/-- A window of two seconds moves into the leap second that ends a day, and back. -/
theorem moved_into_leap :
    let request : ReservationRequest :=
      { user := "alice"
        workload := "train"
        gpu := "card0"
        start := ⟨1700000010, 0⟩
        duration := .ofSeconds 2 0 }
    let id := "res-alice-card0-1700000000"
    let move (start : Timestamp) : Operation := .update id { start := some start } ⟨1700000000, 0⟩
    let start : ReservationBook := { config := {} }
    let durations (operations : List Operation) :=
      ((start.run (.create request ⟨1700000000, 0⟩ :: operations)).records.get? id).map
        (·.duration)
    durations [] = some (.ofSeconds 2 0) ∧
      durations [move ⟨1700006399, 1000000000⟩] = some (.ofSeconds 1 0) ∧
      durations [move ⟨1700006399, 1000000000⟩, move ⟨1700000010, 0⟩] =
        some (.ofSeconds 1 0) := by
  decide +kernel

end ReservationBook

end GpuSharing
