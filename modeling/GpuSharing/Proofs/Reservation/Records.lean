import GpuSharing.Proofs.Reservation.Run

/-!
# What a book remembers

A book only grows. Each reservation that it accepts adds one record under a new name, and
that record stays under its name for whom and for what it was made. Once a record has its
last status, nothing writes to it again.
-/

set_option autoImplicit false

namespace GpuSharing

/-- A later state of the same reservation. A terminal one has no other. -/
structure Reservation.Continues (earlier later : Reservation) : Prop where
  id_eq : later.id = earlier.id
  user_eq : later.user = earlier.user
  gpu_eq : later.gpu = earlier.gpu
  createdAt_eq : later.createdAt = earlier.createdAt
  final : earlier.status.isTerminal → later = earlier

namespace Reservation

theorem Continues.refl (reservation : Reservation) : reservation.Continues reservation :=
  ⟨rfl, rfl, rfl, rfl, fun _ => rfl⟩

theorem Continues.trans {first second third : Reservation} (before : first.Continues second)
    (after : second.Continues third) : first.Continues third where
  id_eq := after.id_eq.trans before.id_eq
  user_eq := after.user_eq.trans before.user_eq
  gpu_eq := after.gpu_eq.trans before.gpu_eq
  createdAt_eq := after.createdAt_eq.trans before.createdAt_eq
  final terminal := by
    have same := before.final terminal
    subst same
    exact after.final terminal

theorem not_isTerminal_of_isLive {reservation : Reservation} (live : reservation.isLive) :
    ¬reservation.status.isTerminal := by
  unfold isLive at live
  simpa using live

theorem continues_swept (reservation : Reservation) (now : Timestamp) :
    reservation.Continues (reservation.swept now) := by
  rcases ReservationBook.swept_cases reservation now with same | ⟨past, ended⟩ | ⟨due, begun⟩
  · rw [same]
    exact .refl reservation
  · have live : reservation.isLive := by
      unfold isOverAt at past
      exact (Bool.and_eq_true_iff.mp past).1
    rw [ended]
    exact ⟨rfl, rfl, rfl, rfl, fun terminal => absurd terminal (not_isTerminal_of_isLive live)⟩
  · have pending := (ReservationBook.isDueAt_iff.mp due).1
    rw [begun]
    refine ⟨rfl, rfl, rfl, rfl, fun terminal => ?_⟩
    rw [pending] at terminal
    cases terminal

end Reservation

namespace ReservationBook

/-- What an operation gives back: the reservation that it made or changed, if any. -/
def answer (book : ReservationBook) : Operation → Outcome (Option Reservation)
  | .create request now => (book.create request now).1.map some
  | .update id patch now => (book.update id patch now).1.map some
  | .cancel id now => (book.cancel id now).1.map some
  | .complete id now => (book.complete id now).1.map some
  | .sweep _ => .ok none

def created? (book : ReservationBook) : Operation → Option Reservation
  | .create request now => (book.create request now).1.toOption
  | _ => none

/-- The reservations that a run makes, one after another. -/
def created (book : ReservationBook) : List Operation → List Reservation
  | [] => []
  | operation :: rest => (book.created? operation).toList ++ (book.perform operation).created rest

theorem conclude_eq_error {book : ReservationBook} {id : String} {status : ReservationStatus}
    {now : Timestamp} {failure : Failure}
    (refused : (book.conclude id status now).1.map some = .error failure) :
    (book.conclude id status now).2 = book := by
  rcases book.conclude_cases id status now with ⟨_, same⟩ | ⟨_, _, _, done⟩
  · rw [same]
  · rw [done] at refused
    cases refused

theorem perform_of_answer_eq_error {book : ReservationBook} {operation : Operation}
    {failure : Failure} (refused : book.answer operation = .error failure) :
    book.perform operation = book := by
  cases operation with
  | create request now =>
      change (book.create request now).1.map some = .error failure at refused
      change (book.create request now).2 = book
      rcases book.create_cases request now with ⟨_, same⟩ | ⟨_, _, done⟩
      · rw [same]
      · rw [done] at refused
        cases refused
  | update id patch now =>
      change (book.update id patch now).1.map some = .error failure at refused
      change (book.update id patch now).2 = book
      rcases book.update_cases id patch now with ⟨_, same⟩ | ⟨_, _, _, _, done⟩
      · rw [same]
      · rw [done] at refused
        cases refused
  | cancel id now => exact conclude_eq_error refused
  | complete id now => exact conclude_eq_error refused
  | sweep now => cases refused

section Retention

/-- Every record is still there, and is that of the same reservation. -/
def Retains (earlier later : ReservationBook) : Prop :=
  ∀ id record, earlier.records.get? id = some record →
    ∃ kept, later.records.get? id = some kept ∧ record.Continues kept

variable {book : ReservationBook}

theorem Retains.refl (book : ReservationBook) : book.Retains book :=
  fun _ record found => ⟨record, found, .refl record⟩

theorem Retains.trans {first second third : ReservationBook} (before : first.Retains second)
    (after : second.Retains third) : first.Retains third := by
  intro id record found
  obtain ⟨kept, known, same⟩ := before id record found
  obtain ⟨last, stored, still⟩ := after id kept known
  exact ⟨last, stored, same.trans still⟩

/-- What is written under a name that is in use continues its record. -/
theorem Retains.store {changed : Reservation}
    (continues : ∀ record, book.records.get? changed.id = some record →
      record.Continues changed) : book.Retains (book.store changed) := by
  intro id record found
  rw [get?_store]
  by_cases same : id = changed.id
  · subst same
    exact ⟨changed, if_pos rfl, continues record found⟩
  · exact ⟨record, by rw [if_neg same, found], .refl record⟩

theorem retains_perform (filed : book.Filed) (operation : Operation) :
    book.Retains (book.perform operation) := by
  refine perform_keeps book.Retains (.refl book) ?drafted ?revised ?concluded ?swept operation
  case drafted =>
    intro request now reservation drafted
    refine .store fun record found => ?_
    obtain ⟨_, _, _, _, _, _, _, _, rfl⟩ := draft_eq_ok.mp drafted
    rw [nextId_unused] at found
    cases found
  case revised =>
    intro id current patch now updated found revises
    refine .store fun record known => ?_
    rw [revises.id_eq, filed id current found, found, Option.some.injEq] at known
    subst known
    exact ⟨revises.id_eq, revises.user_eq, revises.gpu_eq, revises.createdAt_eq, fun terminal =>
      absurd terminal (Reservation.not_isTerminal_of_isLive revises.live)⟩
  case concluded =>
    intro id current status now found live _
    refine .store fun record known => ?_
    change book.records.get? current.id = some record at known
    rw [filed id current found, found, Option.some.injEq] at known
    subst known
    exact ⟨rfl, rfl, rfl, rfl, fun terminal =>
      absurd terminal (Reservation.not_isTerminal_of_isLive live)⟩
  case swept =>
    intro now id record found
    exact ⟨record.swept now, by rw [get?_sweep, found]; rfl,
      record.continues_swept now⟩

theorem retains_run (filed : book.Filed) (operations : List Operation) :
    book.Retains (book.run operations) :=
  And.right <| run_keeps (fun later => later.Filed ∧ book.Retains later)
    (fun later operation kept => ⟨kept.1.perform operation,
      kept.2.trans (later.retains_perform kept.1 operation)⟩)
    ⟨filed, .refl book⟩ operations

end Retention

section Names

variable {book : ReservationBook}

theorem created?_eq_some {operation : Operation} {reservation : Reservation}
    (made : book.created? operation = some reservation) :
    ∃ request now, operation = .create request now ∧
      book.draft request now = .ok reservation := by
  cases operation with
  | create request now =>
      change (book.create request now).1.toOption = some reservation at made
      rcases book.create_cases request now with ⟨_, refused⟩ | ⟨drafted, drafts, done⟩
      · rw [refused] at made
        cases made
      · rw [done] at made
        cases made
        exact ⟨request, now, rfl, drafts⟩
  | update | cancel | complete | sweep => cases made

theorem unused_of_created? {operation : Operation} {reservation : Reservation}
    (made : book.created? operation = some reservation) :
    book.records.get? reservation.id = none := by
  obtain ⟨request, now, _, drafts⟩ := created?_eq_some made
  obtain ⟨_, _, _, _, _, _, _, _, rfl⟩ := draft_eq_ok.mp drafts
  exact book.nextId_unused request.user request.gpu now

theorem mem_keys_store {changed : Reservation} {id : String} :
    id ∈ (book.store changed).records.keys ↔ id = changed.id ∨ id ∈ book.records.keys := by
  rw [Keyed.mem_keys, Keyed.mem_keys, get?_store]
  split
  · rename_i same
    simp [same]
  · rename_i other
    simp [other]

theorem mem_keys_of_known {changed : Reservation} (known : changed.id ∈ book.records.keys)
    (id : String) : id ∈ (book.store changed).records.keys ↔ id ∈ book.records.keys := by
  rw [mem_keys_store]
  refine or_iff_right_of_imp fun same => ?_
  rw [same]
  exact known

theorem mem_keys_conclude (filed : book.Filed) (name : String) (status : ReservationStatus)
    (now : Timestamp) (id : String) :
    id ∈ (book.conclude name status now).2.records.keys ↔ id ∈ book.records.keys := by
  rcases book.conclude_cases name status now with ⟨_, refused⟩ | ⟨current, found, _, done⟩
  · rw [refused]
  · rw [done]
    refine mem_keys_of_known (Keyed.mem_keys.mpr ⟨current, ?_⟩) id
    change book.records.get? current.id = some current
    rw [filed name current found, found]

theorem mem_keys_update (filed : book.Filed) (name : String) (patch : ReservationPatch)
    (now : Timestamp) (id : String) :
    id ∈ (book.update name patch now).2.records.keys ↔ id ∈ book.records.keys := by
  rcases book.update_cases name patch now with
    ⟨_, refused⟩ | ⟨current, updated, found, revises, done⟩
  · rw [refused]
  · rw [done]
    refine mem_keys_of_known (Keyed.mem_keys.mpr ⟨current, ?_⟩) id
    rw [revises.id_eq, filed name current found, found]

theorem mem_keys_sweep (now : Timestamp) (id : String) :
    id ∈ (book.sweep now).2.records.keys ↔ id ∈ book.records.keys := by
  simp [Keyed.mem_keys, get?_sweep]

/-- Only a creation enters a name. -/
theorem mem_keys_perform (filed : book.Filed) (operation : Operation) (id : String) :
    id ∈ (book.perform operation).records.keys ↔
      id ∈ book.records.keys ∨ id ∈ ((book.created? operation).toList.map (·.id)) := by
  have nothing : id ∈ book.records.keys ↔ id ∈ book.records.keys ∨ id ∈ [] :=
    (or_iff_left List.not_mem_nil).symm
  cases operation with
  | create request now =>
      change id ∈ (book.create request now).2.records.keys ↔
        _ ∨ id ∈ (book.create request now).1.toOption.toList.map (·.id)
      rcases book.create_cases request now with ⟨_, refused⟩ | ⟨reservation, _, done⟩
      · simp [refused, Except.toOption]
      · rw [done]
        simp [Except.toOption, mem_keys_store, or_comm]
  | update name patch now => exact (mem_keys_update filed name patch now id).trans nothing
  | cancel name now => exact (mem_keys_conclude filed name .cancelled now id).trans nothing
  | complete name now => exact (mem_keys_conclude filed name .completed now id).trans nothing
  | sweep now => exact (mem_keys_sweep now id).trans nothing

theorem mem_keys_run (filed : book.Filed) (operations : List Operation) (id : String) :
    id ∈ (book.run operations).records.keys ↔
      id ∈ book.records.keys ∨ id ∈ (book.created operations).map (·.id) := by
  induction operations generalizing book with
  | nil => simp [run, created]
  | cons operation rest ih =>
      change id ∈ ((book.perform operation).run rest).records.keys ↔ _
      rw [ih (filed.perform operation), mem_keys_perform filed, created, List.map_append,
        List.mem_append, or_assoc]

/-- The names given out differ from each other and from those that were there before. -/
theorem nodup_created (filed : book.Filed) (operations : List Operation) :
    ((book.created operations).map (·.id)).Nodup ∧
      ∀ id ∈ (book.created operations).map (·.id), id ∉ book.records.keys := by
  induction operations generalizing book with
  | nil => simp [created]
  | cons operation rest ih =>
      obtain ⟨distinct, fresh⟩ := ih (filed.perform operation)
      have unknown (id : String) (later : id ∈ (created (book.perform operation) rest).map (·.id)) :
          id ∉ book.records.keys ∧ id ∉ (book.created? operation).toList.map (·.id) := by
        have absent := fresh id later
        rw [mem_keys_perform filed, not_or] at absent
        exact absent
      cases made : book.created? operation with
      | none =>
          simp only [created, made, Option.toList_none, List.nil_append]
          exact ⟨distinct, fun id later => (unknown id later).1⟩
      | some reservation =>
          have unused : reservation.id ∉ book.records.keys := by
            rw [Keyed.mem_keys, unused_of_created? made]
            simp
          rw [made] at unknown
          simp only [created, made, Option.toList_some, List.cons_append, List.nil_append,
            List.map_cons, List.nodup_cons, List.forall_mem_cons]
          refine ⟨⟨fun again => ?_, distinct⟩, unused, fun id later => (unknown id later).1⟩
          exact (unknown reservation.id again).2 (by simp)

-- Two pairs of a user and a device spell the same name; the later one is numbered.
example :
    let ask (user gpu : String) : Operation :=
      .create { user, workload := "train", gpu, start := ⟨0, 0⟩, duration := .ofSeconds 60 0 } ⟨0, 0⟩
    (({ config := {} } : ReservationBook).created [ask "a-b" "c", ask "a" "b-c"]).map (·.id) =
      ["res-a-b-c-0", "res-a-b-c-0-1"] := by
  decide +kernel

theorem size_run (config : ReservationConfig) (operations : List Operation) :
    (({ config } : ReservationBook).run operations).records.size =
      (({ config } : ReservationBook).created operations).length := by
  have filed := filed_new config
  have same : (({ config } : ReservationBook).run operations).records.keys.Perm
      ((({ config } : ReservationBook).created operations).map (·.id)) := by
    refine (List.perm_ext_iff_of_nodup (Keyed.nodup_keys _)
      (nodup_created filed operations).1).mpr fun id => ?_
    rw [mem_keys_run filed]
    exact or_iff_right (by simp [Keyed.mem_keys])
  simpa [Keyed.keys, Keyed.size] using same.length_eq

end Names

/-- A run stores as many records as it made reservations. Each of them got a name of its own
and is kept under it, from its last status on without any change. -/
theorem run_retains_records (config : ReservationConfig) (operations : List Operation) :
    let book := ({ config } : ReservationBook).run operations
    let made := ({ config } : ReservationBook).created operations
    book.records.size = made.length ∧ (made.map (·.id)).Nodup ∧
      (∀ request now reservation, (book.create request now).1 = .ok reservation →
        book.records.get? reservation.id = none ∧
          (book.create request now).2.records.get? reservation.id = some reservation) ∧
      (∀ id record, book.records.get? id = some record → record.id = id ∧
        ∀ later, ∃ kept, (book.run later).records.get? id = some kept ∧
          record.Continues kept) ∧
      ∀ operation failure, book.answer operation = .error failure →
        book.perform operation = book := by
  intro book made
  have filed : book.Filed := (filed_new config).run operations
  refine ⟨size_run config operations, (nodup_created (filed_new config) operations).1,
    fun request now reservation answered => ?_, fun id record found => ⟨filed id record found,
      fun later => retains_run filed later id record found⟩,
    fun operation failure => perform_of_answer_eq_error⟩
  have made : book.created? (.create request now) = some reservation := by
    change (book.create request now).1.toOption = some reservation
    rw [answered]
    rfl
  refine ⟨unused_of_created? made, ?_⟩
  rcases book.create_cases request now with ⟨_, refused⟩ | ⟨drafted, _, done⟩
  · rw [refused] at answered
    cases answered
  · rw [done] at answered ⊢
    cases answered
    rw [get?_store, if_pos rfl]

end ReservationBook

end GpuSharing
