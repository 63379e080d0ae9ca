import GpuSharing.Proofs.Reservation.Run

/-!
# When reservations begin

A reservation becomes active when its window begins, and stays so until it ends. An
update may set the start of one that is active already; unless that happens, an active
reservation has begun.
-/

set_option autoImplicit false

namespace GpuSharing.ReservationBook

/-- The operations are given in the order of their times. -/
def InOrder (operations : List Operation) : Prop :=
  (operations.map (·.time)).Pairwise (· ≤ ·)

instance (operations : List Operation) : Decidable (InOrder operations) :=
  inferInstanceAs (Decidable (List.Pairwise _ _))

theorem InOrder.le_last {operations : List Operation} {last operation : Operation}
    (inOrder : InOrder (operations ++ [last])) (member : operation ∈ operations ++ [last]) :
    operation.time ≤ last.time := by
  rcases List.mem_append.mp member with earlier | same
  · rw [InOrder, List.map_append, List.pairwise_append] at inOrder
    exact inOrder.2.2 _ (List.mem_map_of_mem earlier) _ (by simp)
  · rw [List.mem_singleton.mp same]
    exact Timestamp.le_refl _

/-- An update in a run gave a reservation its start while it was already active. -/
def Restarted (book : ReservationBook) (operations : List Operation) (id : String)
    (start : Timestamp) : Prop :=
  ∃ before patch now current updated, before ++ [.update id patch now] <+: operations ∧
    (book.run before).records.get? id = some current ∧ current.status = .active ∧
    patch.start = some start ∧ ((book.run before).update id patch now).1 = .ok updated

theorem Restarted.append {book : ReservationBook} {operations : List Operation} {id : String}
    {start : Timestamp} (restarted : book.Restarted operations id start)
    (later : List Operation) : book.Restarted (operations ++ later) id start := by
  obtain ⟨before, patch, now, current, updated, early, rest⟩ := restarted
  exact ⟨before, patch, now, current, updated, early.trans (List.prefix_append _ _), rest⟩

section Begun

variable {book : ReservationBook} {id : String}

/-- A record is there, and it no longer waits for its window. -/
def Begun (id : String) (book : ReservationBook) : Prop :=
  ∃ reservation, book.records.get? id = some reservation ∧ reservation.status ≠ .pending

theorem Begun.store (begun : Begun id book) {changed : Reservation}
    (kept : ∀ current, book.records.get? id = some current → current.status ≠ .pending →
      id = changed.id → changed.status ≠ .pending) : Begun id (book.store changed) := by
  obtain ⟨current, found, status⟩ := begun
  by_cases same : id = changed.id
  · exact ⟨changed, by rw [get?_store, if_pos same], kept current found status same⟩
  · exact ⟨current, by rw [get?_store, if_neg same, found], status⟩

/-- No reservation goes back to waiting, since no other one takes its name. -/
theorem Begun.perform (filed : book.Filed) (begun : Begun id book) (operation : Operation) :
    Begun id (book.perform operation) := by
  refine perform_keeps (Begun id) begun ?drafted ?revised ?concluded ?swept operation
  case drafted =>
    intro request now reservation drafted
    refine begun.store fun current found _ same => ?_
    obtain ⟨_, _, _, _, _, _, _, _, rfl⟩ := draft_eq_ok.mp drafted
    rw [same, nextId_unused] at found
    cases found
  case revised =>
    intro place current patch now updated found revises
    refine begun.store fun known knownFound status same => ?_
    have here : id = place := same.trans (revises.id_eq.trans (filed place current found))
    rw [here, found, Option.some.injEq] at knownFound
    subst knownFound
    rcases revises.status_eq with kept | ⟨pending, _⟩
    · rwa [kept]
    · exact absurd pending status
  case concluded =>
    intro _ current status now _ _ terminal
    refine begun.store fun _ _ _ _ pending => ?_
    change status = .pending at pending
    rw [pending] at terminal
    cases terminal
  case swept =>
    intro now
    obtain ⟨current, found, status⟩ := begun
    refine ⟨current.swept now, by rw [get?_sweep, found]; rfl, ?_⟩
    rcases swept_cases current now with same | ⟨_, ended⟩ | ⟨_, began⟩
    · rwa [same]
    · rw [ended]; exact ReservationStatus.noConfusion
    · rw [began]; exact ReservationStatus.noConfusion

theorem Begun.run (filed : book.Filed) (begun : Begun id book) (operations : List Operation) :
    Begun id (book.run operations) :=
  And.right <| run_keeps (fun book => book.Filed ∧ Begun id book)
    (fun _ operation held => ⟨held.1.perform operation, held.2.perform held.1 operation⟩)
    ⟨filed, begun⟩ operations

end Begun

/-- A reservation that was restarted waits no more, whatever happens to it later. -/
theorem Restarted.begun {book : ReservationBook} (filed : book.Filed)
    {operations : List Operation} {id : String} {start : Timestamp}
    (restarted : book.Restarted operations id start) : Begun id (book.run operations) := by
  obtain ⟨before, patch, now, current, _, ⟨later, rfl⟩, found, active, _, _⟩ := restarted
  have already : Begun id (book.run before) := ⟨current, found, by rw [active]; simp⟩
  rw [List.append_assoc, run_append]
  exact already.run (filed.run before) _

section Activity

variable {book : ReservationBook} {id : String} {reservation : Reservation}

theorem begun_of_draft {request : ReservationRequest} {now : Timestamp}
    (drafted : book.draft request now = .ok reservation) (active : reservation.status = .active) :
    reservation.start ≤ now := by
  obtain ⟨_, _, _, _, _, _, _, _, rfl⟩ := draft_eq_ok.mp drafted
  by_contra later
  exact absurd (active.symm.trans (if_neg later)) (by decide)

/-- What is active after a record got its last status is another record. -/
theorem active_conclude {place : String} {status : ReservationStatus} {now : Timestamp}
    (terminal : status.isTerminal)
    (found : (book.conclude place status now).2.records.get? id = some reservation)
    (active : reservation.status = .active) : book.records.get? id = some reservation := by
  rcases book.conclude_cases place status now with ⟨_, refused⟩ | ⟨current, _, _, done⟩
  · rwa [refused] at found
  · rw [done, get?_store] at found
    split at found
    · cases found
      rw [show status = .active from active] at terminal
      cases terminal
    · exact found

/-- What is active after an operation begins by then, or was active and keeps its start, or
was active and is given its start by the operation. -/
theorem active_perform (filed : book.Filed) {operation : Operation}
    (found : (book.perform operation).records.get? id = some reservation)
    (active : reservation.status = .active) :
    reservation.start ≤ operation.time ∨
    (∃ current, book.records.get? id = some current ∧ current.status = .active ∧
      current.start = reservation.start) ∨
    ∃ patch now current updated, operation = .update id patch now ∧
      book.records.get? id = some current ∧ current.status = .active ∧
      patch.start = some reservation.start ∧ (book.update id patch now).1 = .ok updated := by
  cases operation with
  | create request now =>
      change (book.create request now).2.records.get? id = some reservation at found
      rcases book.create_cases request now with ⟨_, refused⟩ | ⟨drafted, drafts, done⟩
      · rw [refused] at found
        exact .inr (.inl ⟨reservation, found, active, rfl⟩)
      · rw [done, get?_store] at found
        split at found
        · cases found
          exact .inl (begun_of_draft drafts active)
        · exact .inr (.inl ⟨reservation, found, active, rfl⟩)
  | update place patch now =>
      change (book.update place patch now).2.records.get? id = some reservation at found
      rcases book.update_cases place patch now with
        ⟨_, refused⟩ | ⟨current, updated, known, revises, done⟩
      · rw [refused] at found
        exact .inr (.inl ⟨reservation, found, active, rfl⟩)
      · rw [done, get?_store] at found
        split at found
        · rename_i same
          cases found
          have here : id = place := same.trans (revises.id_eq.trans (filed place current known))
          subst here
          rcases revises.status_eq with kept | ⟨_, _, begun⟩
          · rw [kept] at active
            cases given : patch.start with
            | none =>
                refine .inr (.inl ⟨current, known, active, ?_⟩)
                rw [revises.start_eq, given]
                rfl
            | some start =>
                refine .inr (.inr ⟨patch, now, current, reservation, rfl, known, active, ?_, ?_⟩)
                · rw [revises.start_eq, given]
                  rfl
                · rw [done]
          · exact .inl begun
        · exact .inr (.inl ⟨reservation, found, active, rfl⟩)
  | cancel place now =>
      exact .inr (.inl ⟨reservation, active_conclude rfl found active, active, rfl⟩)
  | complete place now =>
      exact .inr (.inl ⟨reservation, active_conclude rfl found active, active, rfl⟩)
  | sweep now =>
      change (book.sweep now).2.records.get? id = some reservation at found
      rw [get?_sweep, Option.map_eq_some_iff] at found
      obtain ⟨earlier, known, rfl⟩ := found
      rcases swept_cases earlier now with same | ⟨_, ended⟩ | ⟨due, begun⟩
      · rw [same] at active ⊢
        exact .inr (.inl ⟨earlier, known, active, rfl⟩)
      · rw [ended] at active
        cases active
      · rw [begun]
        exact .inl (isDueAt_iff.mp due).2.1

/-- An active reservation has begun by the time of some operation, unless it was restarted. -/
theorem begun_or_restarted (config : ReservationConfig) {operations : List Operation}
    (found : (({ config } : ReservationBook).run operations).records.get? id = some reservation)
    (active : reservation.status = .active) :
    (∃ operation ∈ operations, reservation.start ≤ operation.time) ∨
      Restarted { config } operations id reservation.start := by
  induction operations using List.reverseRecOn generalizing reservation with
  | nil => cases found
  | append_singleton earlier operation ih =>
      rw [run_append] at found
      have filed := (filed_new config).run earlier
      rcases active_perform filed found active with
        begun | ⟨current, known, wasActive, same⟩ | ⟨patch, now, current, updated, rfl, restart⟩
      · exact .inl ⟨operation, by simp, begun⟩
      · rw [← same]
        rcases ih known wasActive with ⟨cause, member, begun⟩ | restarted
        · exact .inl ⟨cause, List.mem_append_left _ member, begun⟩
        · exact .inr (restarted.append _)
      · exact .inr ⟨earlier, patch, now, current, updated, List.prefix_rfl, restart⟩

end Activity

/-- Where times never go back, a reservation is active before its start exactly if it is
not over and was given that start while it was active. -/
theorem active_ahead_iff (config : ReservationConfig) (operations : List Operation)
    (last : Operation) (inOrder : InOrder (operations ++ [last])) {id : String}
    {reservation : Reservation}
    (found : (({ config } : ReservationBook).run (operations ++ [last])).records.get? id =
      some reservation) (ahead : last.time < reservation.start) :
    reservation.status = .active ↔
      reservation.isLive ∧ Restarted { config } (operations ++ [last]) id reservation.start := by
  constructor
  · intro active
    refine ⟨by rw [Reservation.isLive, active]; rfl, ?_⟩
    refine (begun_or_restarted config found active).resolve_left ?_
    rintro ⟨operation, member, begun⟩
    exact Timestamp.not_lt.mpr (Timestamp.le_trans begun (inOrder.le_last member)) ahead
  · rintro ⟨live, restarted⟩
    obtain ⟨known, same, begun⟩ := restarted.begun (filed_new config)
    rw [found, Option.some.injEq] at same
    subst same
    cases status : reservation.status with
    | pending => exact absurd status begun
    | active => rfl
    | completed | cancelled | expired =>
        simp [Reservation.isLive, status, ReservationStatus.isTerminal] at live

/-- A reservation that begins at once. -/
def beginsAtOnce : Operation :=
  .create
    { user := "alice"
      workload := "train"
      gpu := "card0"
      start := ⟨1700000000, 0⟩
      duration := .ofSeconds 3600 0 } ⟨1700000000, 0⟩

/-- In the same instant it is moved two hours ahead. -/
def movedAhead : Operation :=
  .update "res-alice-card0-1700000000" { start := some ⟨1700007200, 0⟩ } ⟨1700000000, 0⟩

theorem active_movedAhead :
    InOrder [beginsAtOnce, movedAhead] ∧
      ((({ config := {} } : ReservationBook).run [beginsAtOnce, movedAhead]).records.get?
        "res-alice-card0-1700000000").any fun reservation =>
          reservation.status = .active ∧ movedAhead.time < reservation.start := by
  decide +kernel

theorem restarted_movedAhead :
    InOrder [beginsAtOnce, movedAhead] ∧ ∃ reservation,
      (({ config := {} } : ReservationBook).run [beginsAtOnce, movedAhead]).records.get?
        "res-alice-card0-1700000000" = some reservation ∧
      movedAhead.time < reservation.start ∧ reservation.status = .active ∧
      Restarted { config := {} } [beginsAtOnce, movedAhead] "res-alice-card0-1700000000"
        reservation.start := by
  have inOrder : InOrder ([beginsAtOnce] ++ [movedAhead]) := by decide +kernel
  have early :
      ((({ config := {} } : ReservationBook).run ([beginsAtOnce] ++ [movedAhead])).records.get?
        "res-alice-card0-1700000000").any fun reservation =>
          movedAhead.time < reservation.start ∧ reservation.status = .active := by
    decide +kernel
  obtain ⟨reservation, found, holds⟩ := (Option.any_eq_true _ _).mp early
  obtain ⟨ahead, active⟩ := of_decide_eq_true holds
  have restarted := (active_ahead_iff {} _ _ inOrder found ahead).mp active
  exact ⟨inOrder, reservation, found, ahead, active, restarted.2⟩

end GpuSharing.ReservationBook
