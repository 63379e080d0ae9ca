import GpuSharing.Reservation.Sweep
import Mathlib

/-!
# Runs of a reservation book

The ways in which a book is used, one after another, and what each of them does to
its records: it is turned down without a trace, enters a record under a new name,
replaces a live one, or lets time pass for all of them.
-/

set_option autoImplicit false

namespace GpuSharing

namespace Keyed

variable {α : Type}

/-- Among more names than there are entries, one is free. -/
theorem exists_unused (keyed : Keyed α) {names : List String} (distinct : names.Nodup)
    (more : keyed.size < names.length) : ∃ name ∈ names, keyed.get? name = none := by
  by_contra! taken
  have known : names ⊆ keyed.keys := fun name member =>
    mem_keys.mpr (Option.ne_none_iff_exists'.mp (taken name member))
  have fewer : names.length ≤ keyed.keys.length := (distinct.subperm known).length_le
  rw [keys, List.length_map] at fewer
  exact absurd fewer (Nat.not_le.mpr more)

end Keyed

namespace ReservationBook

/-- The ways in which a book is used that may change it. -/
inductive Operation where
  | create (request : ReservationRequest) (now : Timestamp)
  | update (id : String) (patch : ReservationPatch) (now : Timestamp)
  | cancel (id : String) (now : Timestamp)
  | complete (id : String) (now : Timestamp)
  | sweep (now : Timestamp)

def Operation.time : Operation → Timestamp
  | .create _ now => now
  | .update _ _ now => now
  | .cancel _ now => now
  | .complete _ now => now
  | .sweep now => now

/-- The book after one use of it, whether that succeeded or not. -/
def perform (book : ReservationBook) : Operation → ReservationBook
  | .create request now => (book.create request now).2
  | .update id patch now => (book.update id patch now).2
  | .cancel id now => (book.cancel id now).2
  | .complete id now => (book.complete id now).2
  | .sweep now => (book.sweep now).2

def run (book : ReservationBook) (operations : List Operation) : ReservationBook :=
  operations.foldl perform book

theorem run_append (book : ReservationBook) (first second : List Operation) :
    book.run (first ++ second) = (book.run first).run second :=
  List.foldl_append

/-- What every operation keeps, a run keeps. -/
theorem run_keeps (holds : ReservationBook → Prop)
    (step : ∀ book operation, holds book → holds (book.perform operation))
    {book : ReservationBook} (held : holds book) (operations : List Operation) :
    holds (book.run operations) := by
  induction operations generalizing book with
  | nil => exact held
  | cons operation rest ih => exact ih (step book operation held)

theorem get_eq_ok {book : ReservationBook} {id : String} {reservation : Reservation} :
    book.get id = .ok reservation ↔ book.records.get? id = some reservation := by
  unfold get
  cases book.records.get? id with
  | none => simp [refuse]
  | some found => simp

section Names

private theorem numbered_injective (base : String) :
    Function.Injective fun n : Nat => s!"{base}-{n + 1}" := by
  intro first second same
  have tails : toString (first + 1) = toString (second + 1) := by
    simpa [toString, String.append_assoc] using same
  have numbers : first + 1 = second + 1 := Nat.repr_inj.mp tails
  omega

/-- The numbered names are not all taken. -/
private theorem find?_numbered (records : Keyed Reservation) (base : String) :
    ∃ name, (((List.range (records.size + 1)).map fun n => s!"{base}-{n + 1}").find?
      fun candidate => !records.contains candidate) = some name ∧ records.get? name = none := by
  have distinct : ((List.range (records.size + 1)).map fun n => s!"{base}-{n + 1}").Nodup :=
    List.nodup_range.map (numbered_injective base)
  obtain ⟨free, member, unused⟩ := records.exists_unused distinct (by simp)
  cases first : ((List.range (records.size + 1)).map fun n => s!"{base}-{n + 1}").find?
      fun candidate => !records.contains candidate with
  | none =>
      have taken := List.find?_eq_none.mp first free member
      simp [Keyed.contains, unused] at taken
  | some name =>
      have accepted := List.find?_some first
      exact ⟨name, rfl, by simpa [Keyed.contains] using accepted⟩

/-- A new reservation gets a name that no record has. -/
theorem nextId_unused (book : ReservationBook) (user gpu : String) (now : Timestamp) :
    book.records.get? (book.nextId user gpu now) = none := by
  unfold nextId
  dsimp only
  split
  · obtain ⟨name, first, unused⟩ := find?_numbered book.records s!"res-{user}-{gpu}-{now.seconds}"
    rw [first]
    exact unused
  · rename_i free
    simpa [Keyed.contains] using free

end Names

section Checks

variable {book : ReservationBook}

theorem validateDuration_eq_ok {duration : Duration} {result : Unit} :
    book.validateDuration duration = .ok result ↔
      .zero < duration ∧ duration ≤ book.config.maxDuration := by
  simp only [validateDuration, Outcome.bind_eq_ok, require_eq_ok, exists_and_left, exists_const]

theorem validateWindow_eq_ok {start : Timestamp} {duration : Duration} {now : Timestamp}
    {result : Unit} : book.validateWindow start duration now = .ok result ↔
      (.zero < duration ∧ duration ≤ book.config.maxDuration) ∧ now ≤ start := by
  simp only [validateWindow, Outcome.bind_eq_ok, require_eq_ok, validateDuration_eq_ok,
    exists_and_left, exists_const]

theorem endOfWindow_eq_ok {start finish : Timestamp} {duration : Duration} :
    endOfWindow start duration = .ok finish ↔ start.add? duration = some finish := by
  unfold endOfWindow
  cases start.add? duration with
  | none => simp [refuse]
  | some later => simp

theorem checkConflicts_eq_ok {gpu : String} {start finish : Timestamp} {sharing : Bool}
    {except : Option String} {result : Unit} :
    book.checkConflicts gpu start finish sharing except = .ok result ↔
      book.conflicts gpu start finish except = [] ∨
        book.config.conflictPolicy.permits sharing := by
  unfold checkConflicts
  simp only [List.map_eq_nil_iff]
  split
  · simp_all
  · simp_all

theorem mem_conflicts {gpu : String} {start finish : Timestamp} {except : Option String}
    {existing : Reservation} : existing ∈ book.conflicts gpu start finish except ↔
      (∃ id, book.records.get? id = some existing) ∧ existing.gpu = gpu ∧
        existing.isLive ∧ some existing.id ≠ except ∧ existing.overlaps start finish := by
  simp [conflicts, Keyed.mem_values, and_assoc]

theorem requireLive_eq_ok {reservation : Reservation} {result : Unit} :
    requireLive reservation = .ok result ↔ reservation.isLive :=
  require_eq_ok

end Checks

section Changes

variable {book : ReservationBook}

theorem draft_eq_ok {request : ReservationRequest} {now : Timestamp} {reservation : Reservation} :
    book.draft request now = .ok reservation ↔
      ∃ fraction finish,
        requireFields [("user_id", request.user), ("workload_id", request.workload),
          ("gpu_id", request.gpu)] = .ok () ∧
        Share.ofFraction request.fraction = .ok fraction ∧
        book.validateWindow request.start request.duration now = .ok () ∧
        request.start.add? request.duration = some finish ∧
        book.checkCaps request.user request.gpu = .ok () ∧
        book.checkConflicts request.gpu request.start finish request.sharing none = .ok () ∧
        reservation =
          { id := book.nextId request.user request.gpu now
            user := request.user
            workload := request.workload
            gpu := request.gpu
            fraction
            memoryMib := request.memoryMib
            start := request.start
            finish
            priority := request.priority
            status := if request.start ≤ now then .active else .pending
            isolation := request.isolation
            sharing := request.sharing
            createdAt := now
            updatedAt := now } := by
  simp only [draft, Outcome.bind_eq_ok, Outcome.pure_eq_ok, endOfWindow_eq_ok]
  constructor
  · rintro ⟨_, named, fraction, valid, _, window, finish, ends, _, caps, _, free, rfl⟩
    exact ⟨fraction, finish, named, valid, window, ends, caps, free, rfl⟩
  · rintro ⟨fraction, finish, named, valid, window, ends, caps, free, rfl⟩
    exact ⟨(), named, fraction, valid, (), window, finish, ends, (), caps, (), free, rfl⟩

private theorem window_eq_ok {valid : Outcome Unit} {start : Timestamp} {duration : Duration}
    {ending : Timestamp → Reservation} {updated : Reservation} :
    (do valid; let finish ← endOfWindow start duration; pure (ending finish)) = .ok updated ↔
      valid = .ok () ∧ ∃ finish, start.add? duration = some finish ∧ updated = ending finish := by
  simp only [Outcome.bind_eq_ok, Outcome.pure_eq_ok, endOfWindow_eq_ok]
  constructor
  · rintro ⟨_, accepted, finish, ends, rfl⟩
    exact ⟨accepted, finish, ends, rfl⟩
  · rintro ⟨accepted, finish, ends, rfl⟩
    exact ⟨(), accepted, finish, ends, rfl⟩

/-- A window moves to its new start and length, as far as they are given. A new start
must not lie in the past. -/
theorem moved_eq_ok {current updated : Reservation} {patch : ReservationPatch} {now : Timestamp} :
    book.moved current patch now = .ok updated ↔
      (patch.start = none ∧ patch.duration = none ∧ updated = current) ∨
      ((patch.start ≠ none ∨ patch.duration ≠ none) ∧
        book.validateDuration (patch.duration.getD current.duration) = .ok () ∧
        (∀ start, patch.start = some start → now ≤ start) ∧
        ∃ finish, (patch.start.getD current.start).add?
            (patch.duration.getD current.duration) = some finish ∧
          updated = { current with
            start := patch.start.getD current.start
            finish
            status := if current.status = .pending ∧ patch.start.getD current.start ≤ now
              then .active else current.status }) := by
  unfold moved
  cases ahead : patch.start with
  | none =>
      cases longer : patch.duration with
      | none =>
          simp only [Option.isNone_none, Bool.and_self, ↓reduceIte, Outcome.pure_eq_ok]
          simp [eq_comm]
      | some duration =>
          refine window_eq_ok.trans ?_
          simp
  | some start =>
      refine window_eq_ok.trans ?_
      simp [validateWindow_eq_ok, validateDuration_eq_ok, and_assoc]

/-- A record under the terms of a patch; its window stays. -/
def renewed (current : Reservation) (patch : ReservationPatch) (fraction : Share) : Reservation :=
  { current with
    workload := patch.workload.getD current.workload
    fraction
    memoryMib := patch.memoryMib.getD current.memoryMib
    priority := patch.priority.getD current.priority
    isolation := patch.isolation.getD current.isolation
    sharing := patch.sharing.getD current.sharing }

private theorem checked_eq_ok {recheck : Bool} {check : Outcome Unit}
    {result updated : Reservation} :
    (do if recheck then check
        pure result) = .ok updated ↔ (recheck → check = .ok ()) ∧ updated = result := by
  cases recheck with
  | false => exact Outcome.pure_eq_ok.trans (by simp [eq_comm])
  | true =>
      refine Outcome.bind_eq_ok.trans ?_
      simp only [Outcome.pure_eq_ok, forall_const]
      exact ⟨fun ⟨_, passed, same⟩ => ⟨passed, same.symm⟩,
        fun ⟨passed, same⟩ => ⟨(), passed, same.symm⟩⟩

/-- An update checks the new terms and the new window, and the overlaps again if the window
has moved or consent is withdrawn. -/
theorem patched_eq_ok {current updated : Reservation} {patch : ReservationPatch}
    {now : Timestamp} :
    book.patched current patch now = .ok updated ↔
      current.isLive ∧ ∃ fraction,
        (match patch.fraction with
          | some fraction => Share.ofFraction fraction
          | none => .ok current.fraction) = .ok fraction ∧
        ∃ moved, book.moved (renewed current patch fraction) patch now = .ok moved ∧
          (patch.start.isSome || patch.duration.isSome || current.sharing && !moved.sharing →
            book.checkConflicts moved.gpu moved.start moved.finish moved.sharing
              (some current.id) = .ok ()) ∧
          updated = { moved with updatedAt := now } := by
  have rest (fraction : Share) :
      (do
        let moved ← book.moved (renewed current patch fraction) patch now
        if patch.start.isSome || patch.duration.isSome || current.sharing && !moved.sharing then
          book.checkConflicts moved.gpu moved.start moved.finish moved.sharing (some current.id)
        pure { moved with updatedAt := now }) = .ok updated ↔ _ :=
    Outcome.bind_eq_ok.trans (exists_congr fun _ => and_congr_right fun _ => checked_eq_ok)
  unfold patched
  rw [Outcome.bind_eq_ok]
  simp only [requireLive_eq_ok, exists_const]
  refine and_congr_right fun _ => ?_
  cases patch.fraction with
  | none =>
      exact Outcome.bind_eq_ok.trans (exists_congr fun share => and_congr_right fun _ => rest share)
  | some fraction =>
      exact Outcome.bind_eq_ok.trans (exists_congr fun share => and_congr_right fun _ => rest share)

/-- A live record has been brought under new terms. -/
structure Revises (book : ReservationBook) (current : Reservation) (patch : ReservationPatch)
    (now : Timestamp) (updated : Reservation) : Prop where
  live : current.isLive
  /-- What the patch leaves out stays, but for the window and the status. -/
  terms_eq : updated =
    { renewed current patch updated.fraction with
      start := updated.start
      finish := updated.finish
      status := updated.status
      updatedAt := now }
  fraction_eq : (match patch.fraction with
    | some fraction => Share.ofFraction fraction
    | none => .ok current.fraction) = .ok updated.fraction
  start_eq : updated.start = patch.start.getD current.start
  finish_eq : patch.start = none → patch.duration = none → updated.finish = current.finish
  window : patch.start ≠ none ∨ patch.duration ≠ none →
    book.validateDuration (patch.duration.getD current.duration) = .ok () ∧
      updated.start.add? (patch.duration.getD current.duration) = some updated.finish
  status_eq : updated.status = current.status ∨
    current.status = .pending ∧ updated.status = .active ∧ updated.start ≤ now
  checked : patch.start.isSome || patch.duration.isSome || current.sharing && !updated.sharing →
    book.checkConflicts updated.gpu updated.start updated.finish updated.sharing
      (some current.id) = .ok ()

section Terms

variable {current updated : Reservation} {patch : ReservationPatch} {now : Timestamp}

theorem Revises.id_eq (revises : book.Revises current patch now updated) :
    updated.id = current.id := by
  rw [revises.terms_eq]
  rfl

theorem Revises.user_eq (revises : book.Revises current patch now updated) :
    updated.user = current.user := by
  rw [revises.terms_eq]
  rfl

theorem Revises.gpu_eq (revises : book.Revises current patch now updated) :
    updated.gpu = current.gpu := by
  rw [revises.terms_eq]
  rfl

theorem Revises.createdAt_eq (revises : book.Revises current patch now updated) :
    updated.createdAt = current.createdAt := by
  rw [revises.terms_eq]
  rfl

theorem Revises.of_patched (patched : book.patched current patch now = .ok updated) :
    book.Revises current patch now updated := by
  obtain ⟨live, fraction, valid, moved, moves, checked, rfl⟩ := patched_eq_ok.mp patched
  rcases moved_eq_ok.mp moves with
    ⟨sameStart, sameDuration, rfl⟩ | ⟨changed, length, _, finish, ends, rfl⟩
  · refine ⟨live, rfl, valid, ?_, fun _ _ => rfl, fun changed => ?_, .inl rfl, checked⟩
    · rw [sameStart]
      rfl
    · exact absurd changed (by simp [sameStart, sameDuration])
  · refine ⟨live, rfl, valid, rfl, fun sameStart sameDuration => ?_, fun _ => ⟨length, ends⟩, ?_,
      checked⟩
    · exact absurd changed (by simp [sameStart, sameDuration])
    · by_cases due : current.status = .pending ∧ patch.start.getD current.start ≤ now
      · exact .inr ⟨due.1, if_pos due, due.2⟩
      · exact .inl (if_neg due)

end Terms

/-- A request is turned down without a trace, or entered under a new name. -/
theorem create_cases (book : ReservationBook) (request : ReservationRequest) (now : Timestamp) :
    (∃ failure, book.create request now = (.error failure, book)) ∨
    ∃ reservation, book.draft request now = .ok reservation ∧
      book.create request now = (.ok reservation, book.store reservation) := by
  unfold create
  cases book.draft request now with
  | error failure => exact .inl ⟨failure, rfl⟩
  | ok reservation => exact .inr ⟨reservation, rfl, rfl⟩

/-- An update is turned down without a trace, or revises the record of its name. -/
theorem update_cases (book : ReservationBook) (id : String) (patch : ReservationPatch)
    (now : Timestamp) :
    (∃ failure, book.update id patch now = (.error failure, book)) ∨
    ∃ current updated, book.records.get? id = some current ∧
      book.Revises current patch now updated ∧
      book.update id patch now = (.ok updated, book.store updated) := by
  unfold update
  cases result : book.get id >>= fun current => book.patched current patch now with
  | error failure => exact .inl ⟨failure, rfl⟩
  | ok updated =>
      obtain ⟨current, found, patched⟩ := Outcome.bind_eq_ok.mp result
      exact .inr ⟨current, updated, get_eq_ok.mp found, .of_patched patched, rfl⟩

/-- A record is left alone, or given its last status if it is live. -/
theorem conclude_cases (book : ReservationBook) (id : String) (status : ReservationStatus)
    (now : Timestamp) :
    (∃ failure, book.conclude id status now = (.error failure, book)) ∨
    ∃ current, book.records.get? id = some current ∧ current.isLive ∧
      book.conclude id status now =
        (.ok { current with status, updatedAt := now },
          book.store { current with status, updatedAt := now }) := by
  unfold conclude
  dsimp only
  split
  · rename_i failure _
    exact .inl ⟨failure, rfl⟩
  · rename_i concluded result
    simp only [Outcome.bind_eq_ok, requireLive_eq_ok, Outcome.pure_eq_ok, exists_const] at result
    obtain ⟨current, found, live, rfl⟩ := result
    exact .inr ⟨current, get_eq_ok.mp found, live, rfl⟩

theorem get?_store (book : ReservationBook) (reservation : Reservation) (id : String) :
    (book.store reservation).records.get? id =
      if id = reservation.id then some reservation else book.records.get? id :=
  Keyed.get?_insert book.records reservation.id reservation id

theorem get?_sweep (book : ReservationBook) (now : Timestamp) (id : String) :
    (book.sweep now).2.records.get? id = (book.records.get? id).map (·.swept now) :=
  Keyed.get?_map book.records (·.swept now) id

end Changes

section Sweeps

/-- Time leaves a record as it is, ends it, or lets its window begin. -/
theorem swept_cases (reservation : Reservation) (now : Timestamp) :
    reservation.swept now = reservation ∨
    reservation.isOverAt now ∧
      reservation.swept now = { reservation with status := .expired, updatedAt := now } ∨
    reservation.isDueAt now ∧
      reservation.swept now = { reservation with status := .active, updatedAt := now } := by
  unfold Reservation.swept
  split
  · rename_i past
    exact .inr (.inl ⟨past, rfl⟩)
  · split
    · rename_i due
      exact .inr (.inr ⟨due, rfl⟩)
    · exact .inl rfl

theorem isDueAt_iff {reservation : Reservation} {now : Timestamp} :
    reservation.isDueAt now ↔
      reservation.status = .pending ∧ reservation.start ≤ now ∧ now < reservation.finish := by
  simp [Reservation.isDueAt, and_assoc]

/-- Only the status of a record and the time of its last change depend on time, and what
is live afterwards was so before. -/
theorem swept_eq (reservation : Reservation) (now : Timestamp) :
    ∃ status updatedAt, reservation.swept now = { reservation with status, updatedAt } ∧
      ((reservation.swept now).isLive → reservation.isLive) := by
  rcases swept_cases reservation now with same | ⟨_, ended⟩ | ⟨due, begun⟩
  · exact ⟨reservation.status, reservation.updatedAt, same, fun live => same ▸ live⟩
  · exact ⟨.expired, now, ended, fun live => by rw [ended] at live; cases live⟩
  · have pending := (isDueAt_iff.mp due).1
    exact ⟨.active, now, begun, fun _ => by rw [Reservation.isLive, pending]; rfl⟩

end Sweeps

section Invariants

/-- What a new record, a revised one, a last status and a sweep keep, every operation
keeps. -/
theorem perform_keeps {book : ReservationBook} (holds : ReservationBook → Prop)
    (held : holds book)
    (drafted : ∀ request now reservation, book.draft request now = .ok reservation →
      holds (book.store reservation))
    (revised : ∀ id current patch now updated, book.records.get? id = some current →
      book.Revises current patch now updated → holds (book.store updated))
    (concluded : ∀ id current status now, book.records.get? id = some current →
      current.isLive → status.isTerminal →
      holds (book.store { current with status, updatedAt := now }))
    (swept : ∀ now, holds (book.sweep now).2) (operation : Operation) :
    holds (book.perform operation) := by
  have ends (id : String) (status : ReservationStatus) (now : Timestamp)
      (terminal : status.isTerminal) : holds (book.conclude id status now).2 := by
    rcases book.conclude_cases id status now with ⟨_, refused⟩ | ⟨current, found, live, done⟩
    · exact refused ▸ held
    · exact done ▸ concluded id current status now found live terminal
  cases operation with
  | create request now =>
      change holds (book.create request now).2
      rcases book.create_cases request now with ⟨_, refused⟩ | ⟨reservation, drafts, done⟩
      · exact refused ▸ held
      · exact done ▸ drafted request now reservation drafts
  | update id patch now =>
      change holds (book.update id patch now).2
      rcases book.update_cases id patch now with
        ⟨_, refused⟩ | ⟨current, updated, found, revises, done⟩
      · exact refused ▸ held
      · exact done ▸ revised id current patch now updated found revises
  | cancel id now => exact ends id .cancelled now rfl
  | complete id now => exact ends id .completed now rfl
  | sweep now => exact swept now

/-- Every record is kept under its own name. -/
def Filed (book : ReservationBook) : Prop :=
  ∀ id reservation, book.records.get? id = some reservation → reservation.id = id

theorem filed_new (config : ReservationConfig) : ({ config } : ReservationBook).Filed :=
  fun _ _ found => by cases found

theorem Filed.store {book : ReservationBook} (filed : book.Filed) (reservation : Reservation) :
    (book.store reservation).Filed := by
  intro id other found
  rw [get?_store] at found
  split at found
  · rename_i same
    exact (congrArg Reservation.id (Option.some.inj found)).symm.trans same.symm
  · exact filed id other found

theorem Filed.sweep {book : ReservationBook} (filed : book.Filed) (now : Timestamp) :
    (book.sweep now).2.Filed := by
  intro id reservation found
  rw [get?_sweep, Option.map_eq_some_iff] at found
  obtain ⟨earlier, known, rfl⟩ := found
  obtain ⟨_, _, same, _⟩ := swept_eq earlier now
  rw [same]
  exact filed id earlier known

theorem Filed.perform {book : ReservationBook} (filed : book.Filed) (operation : Operation) :
    (book.perform operation).Filed :=
  perform_keeps Filed filed (fun _ _ reservation _ => filed.store reservation)
    (fun _ _ _ _ updated _ _ => filed.store updated) (fun _ _ _ _ _ _ _ => filed.store _)
    filed.sweep operation

theorem Filed.run {book : ReservationBook} (filed : book.Filed) (operations : List Operation) :
    (book.run operations).Filed :=
  run_keeps Filed (fun _ operation filed => filed.perform operation) filed operations

/-- The limits of a book never change. -/
theorem config_perform (book : ReservationBook) (operation : Operation) :
    (book.perform operation).config = book.config := by
  refine perform_keeps (·.config = book.config) rfl ?_ ?_ ?_ ?_ operation
  all_goals intros; rfl

theorem config_run (book : ReservationBook) (operations : List Operation) :
    (book.run operations).config = book.config :=
  run_keeps (·.config = book.config)
    (fun earlier operation same => (earlier.config_perform operation).trans same) rfl operations

end Invariants

end ReservationBook

end GpuSharing
