import GpuSharing.Proofs.Reservation.Run

/-!
# How much a user and a device may have reserved

The live reservations of a user and those of a device are counted when another one is made,
and at no other time. Nothing else adds to either number: a live record stays with its user and
its device, and a finished one is never live again.
-/

set_option autoImplicit false

namespace GpuSharing

namespace Keyed

variable {α : Type}

theorem nodup_entries (keyed : Keyed α) : keyed.entries.Nodup :=
  .of_map Prod.fst keyed.nodup_keys

/-- What is entered stands beside whatever has another name. -/
theorem perm_values_insert (keyed : Keyed α) (key : String) (value : α) :
    (keyed.insert key value).values.Perm (value :: (keyed.erase key).values) := by
  have absent : (key, value) ∉ (keyed.erase key).entries := fun member => by
    simpa [get?_erase] using mem_entries.mp member
  have entries : (keyed.insert key value).entries.Perm
      ((key, value) :: (keyed.erase key).entries) := by
    refine (List.perm_ext_iff_of_nodup (nodup_entries _)
      (List.nodup_cons.mpr ⟨absent, nodup_entries _⟩)).mpr fun entry => ?_
    obtain ⟨name, stored⟩ := entry
    rw [List.mem_cons, mem_entries, mem_entries, get?_insert, get?_erase, Prod.mk.injEq]
    by_cases here : name = key
    · simp [here, eq_comm]
    · simp [here]
  exact entries.map Prod.snd

theorem perm_values (keyed : Keyed α) {key : String} {value : α}
    (found : keyed.get? key = some value) :
    keyed.values.Perm (value :: (keyed.erase key).values) := by
  have same : keyed.insert key value = keyed := by
    refine ext_get? fun name => ?_
    rw [get?_insert]
    split
    · rename_i here
      rw [here, found]
    · rfl
  have entered := keyed.perm_values_insert key value
  rw [same] at entered
  exact entered

theorem erase_of_unused {keyed : Keyed α} {key : String} (unused : keyed.get? key = none) :
    keyed.erase key = keyed := by
  refine ext_get? fun name => ?_
  rw [get?_erase]
  split
  · rename_i here
    rw [here, unused]
  · rfl

theorem values_map (keyed : Keyed α) (change : α → α) :
    (keyed.map change).values = keyed.values.map change := by
  simp [values, map, mapKeyed]

end Keyed

namespace ReservationBook

variable {book : ReservationBook}

section Counts

/-! Live records of one kind, with one name left out of account. -/

theorem liveCount_eq_countP (book : ReservationBook) (accepts : Reservation → Bool) :
    book.liveCount accepts =
      book.records.values.countP fun record => record.isLive && accepts record :=
  List.countP_eq_length_filter.symm

/-- The live records of one kind under all names but one. -/
def othersCount (book : ReservationBook) (id : String) (accepts : Reservation → Bool) : Nat :=
  (book.records.erase id).values.countP fun record => record.isLive && accepts record

variable (accepts : Reservation → Bool)

theorem liveCount_store (book : ReservationBook) (reservation : Reservation) :
    (book.store reservation).liveCount accepts = book.othersCount reservation.id accepts +
      if reservation.isLive && accepts reservation then 1 else 0 := by
  rw [liveCount_eq_countP, othersCount, ← List.countP_cons]
  exact (book.records.perm_values_insert reservation.id reservation).countP_eq _

theorem liveCount_of_found {id : String} {record : Reservation}
    (found : book.records.get? id = some record) :
    book.liveCount accepts =
      book.othersCount id accepts + if record.isLive && accepts record then 1 else 0 := by
  rw [liveCount_eq_countP, othersCount, ← List.countP_cons]
  exact (book.records.perm_values found).countP_eq _

theorem liveCount_of_unused {id : String} (unused : book.records.get? id = none) :
    book.liveCount accepts = book.othersCount id accepts := by
  rw [liveCount_eq_countP, othersCount, Keyed.erase_of_unused unused]

/-- Whatever replaces a record counts no more than it did, unless it comes to life or changes
hands. -/
theorem liveCount_replace_le {current changed : Reservation}
    (found : book.records.get? changed.id = some current)
    (counted : changed.isLive && accepts changed → current.isLive && accepts current) :
    (book.store changed).liveCount accepts ≤ book.liveCount accepts := by
  rw [liveCount_store, liveCount_of_found accepts found]
  refine Nat.add_le_add_left ?_ _
  split
  · rename_i live
    rw [if_pos (counted live)]
  · exact Nat.zero_le _

theorem liveCount_sweep_le (book : ReservationBook) (now : Timestamp)
    (same : ∀ record : Reservation, accepts (record.swept now) = accepts record) :
    (book.sweep now).2.liveCount accepts ≤ book.liveCount accepts := by
  rw [liveCount_eq_countP, liveCount_eq_countP]
  change (book.records.map (·.swept now)).values.countP _ ≤ _
  rw [Keyed.values_map, List.countP_map]
  refine List.countP_mono_left fun record _ counted => ?_
  obtain ⟨_, _, _, lived⟩ := swept_eq record now
  simp only [Function.comp_apply, Bool.and_eq_true] at counted ⊢
  exact ⟨lived counted.1, same record ▸ counted.2⟩

end Counts

section Caps

theorem checkCaps_eq_ok {user gpu : String} {result : Unit} :
    book.checkCaps user gpu = .ok result ↔
      book.liveCount (·.user = user) < book.config.maxPerUser ∧
        book.liveCount (·.gpu = gpu) < book.config.maxPerGpu := by
  simp only [checkCaps, Outcome.bind_eq_ok, require_eq_ok, exists_and_left, exists_const]

/-- No holder has more than so many live reservations. -/
def Capped (book : ReservationBook) (holder : Reservation → String) (cap : Nat) : Prop :=
  ∀ name, book.liveCount (holder · = name) ≤ cap

variable {holder : Reservation → String} {cap : Nat}

theorem Capped.store_new (capped : book.Capped holder cap) {reservation : Reservation}
    (unused : book.records.get? reservation.id = none)
    (room : book.liveCount (holder · = holder reservation) < cap) :
    (book.store reservation).Capped holder cap := by
  intro name
  rw [liveCount_store, ← liveCount_of_unused _ unused]
  by_cases own : holder reservation = name
  · subst own
    split
    · exact room
    · exact Nat.le_of_lt room
  · simpa [own] using capped name

theorem Capped.store_known (capped : book.Capped holder cap) {current changed : Reservation}
    (found : book.records.get? changed.id = some current) (live : current.isLive)
    (same : holder changed = holder current) : (book.store changed).Capped holder cap := by
  intro name
  refine Nat.le_trans (liveCount_replace_le _ found fun counted => ?_) (capped name)
  simp only [Bool.and_eq_true, decide_eq_true_eq] at counted ⊢
  exact ⟨live, same ▸ counted.2⟩

theorem Capped.sweep (capped : book.Capped holder cap) (now : Timestamp)
    (same : ∀ record : Reservation, holder (record.swept now) = holder record) :
    (book.sweep now).2.Capped holder cap := by
  intro name
  exact Nat.le_trans (liveCount_sweep_le _ book now fun record => by rw [same]) (capped name)

/-- A cap holds if each new reservation finds room under it, for a holder that a reservation
never changes. -/
theorem Capped.perform (filed : book.Filed) (capped : book.Capped holder cap)
    (unchanged : ∀ first second : Reservation, first.user = second.user →
      first.gpu = second.gpu → holder first = holder second)
    (room : ∀ request now reservation, book.draft request now = .ok reservation →
      book.liveCount (holder · = holder reservation) < cap) (operation : Operation) :
    (book.perform operation).Capped holder cap := by
  refine perform_keeps (·.Capped holder cap) capped ?drafted ?revised ?concluded ?swept operation
  case drafted =>
    intro request now reservation drafted
    refine capped.store_new ?_ (room request now reservation drafted)
    obtain ⟨_, _, _, _, _, _, _, _, rfl⟩ := draft_eq_ok.mp drafted
    exact nextId_unused book request.user request.gpu now
  case revised =>
    intro id current patch now updated found revises
    refine capped.store_known ?_ revises.live
      (unchanged updated current revises.user_eq revises.gpu_eq)
    rw [revises.id_eq, filed id current found]
    exact found
  case concluded =>
    intro id current status now found live _
    refine capped.store_known ?_ live (unchanged _ current rfl rfl)
    rw [filed id current found]
    exact found
  case swept =>
    intro now
    refine capped.sweep now fun record => ?_
    obtain ⟨_, _, swept, _⟩ := swept_eq record now
    rw [swept]
    exact unchanged _ record rfl rfl

/-- Both numbers keep to the limits of the book. -/
structure Moderate (book : ReservationBook) (config : ReservationConfig) : Prop where
  filed : book.Filed
  limits : book.config = config
  users : book.Capped (·.user) config.maxPerUser
  gpus : book.Capped (·.gpu) config.maxPerGpu

theorem moderate_new (config : ReservationConfig) : ({ config } : ReservationBook).Moderate config :=
  ⟨filed_new config, rfl, fun _ => Nat.zero_le _, fun _ => Nat.zero_le _⟩

theorem Moderate.perform {config : ReservationConfig} (moderate : book.Moderate config)
    (operation : Operation) : (book.perform operation).Moderate config := by
  have room (request : ReservationRequest) (now : Timestamp) (reservation : Reservation)
      (drafted : book.draft request now = .ok reservation) :
      book.liveCount (·.user = reservation.user) < config.maxPerUser ∧
        book.liveCount (·.gpu = reservation.gpu) < config.maxPerGpu := by
    obtain ⟨_, _, _, _, _, _, caps, _, rfl⟩ := draft_eq_ok.mp drafted
    rw [← moderate.limits]
    exact checkCaps_eq_ok.mp caps
  refine ⟨moderate.filed.perform operation,
    (book.config_perform operation).trans moderate.limits, ?_, ?_⟩
  · exact moderate.users.perform moderate.filed (fun _ _ same _ => same)
      (fun request now reservation drafted => (room request now reservation drafted).1) operation
  · exact moderate.gpus.perform moderate.filed (fun _ _ _ same => same)
      (fun request now reservation drafted => (room request now reservation drafted).2) operation

theorem Moderate.run {config : ReservationConfig} (moderate : book.Moderate config)
    (operations : List Operation) : (book.run operations).Moderate config :=
  run_keeps (·.Moderate config) (fun _ operation moderate => moderate.perform operation) moderate
    operations

end Caps

section Refusals

/-- A request for a reservation that is as it should be, whatever else is reserved. -/
structure Valid (book : ReservationBook) (request : ReservationRequest) (now : Timestamp) :
    Prop where
  named : requireFields [("user_id", request.user), ("workload_id", request.workload),
    ("gpu_id", request.gpu)] = .ok ()
  fraction : ∃ share, Share.ofFraction request.fraction = .ok share
  window : book.validateWindow request.start request.duration now = .ok ()
  finish : ∃ finish, endOfWindow request.start request.duration = .ok finish

/-- No limit is what an outcome fails for. -/
def Unlimited {α : Type} (outcome : Outcome α) : Prop :=
  ∀ reason, outcome ≠ refuse (.limitExceeded reason)

theorem unlimited_require {condition : Prop} [Decidable condition] {error : AllocationError}
    (other : ∀ reason, error ≠ .limitExceeded reason) : Unlimited (require condition error) := by
  intro reason refused
  have same := (require_eq_error.mp refused).2
  exact other reason (Failure.mk.inj same).1.symm

theorem unlimited_ofFraction (fraction : Float) : Unlimited (Share.ofFraction fraction) := by
  intro reason refused
  unfold Share.ofFraction at refused
  split at refused
  · cases refused
  · cases refused

theorem unlimited_validateWindow (start : Timestamp) (duration : Duration) (now : Timestamp) :
    Unlimited (book.validateWindow start duration now) := by
  intro reason refused
  simp only [validateWindow, validateDuration, refuse, Outcome.bind_eq_error, require_eq_error,
    Failure.mk.injEq, reduceCtorEq, false_and, and_false, or_self, exists_false] at refused

theorem unlimited_endOfWindow (start : Timestamp) (duration : Duration) :
    Unlimited (endOfWindow start duration) := by
  intro reason refused
  unfold endOfWindow at refused
  split at refused
  · cases refused
  · cases refused

theorem unlimited_checkConflicts (gpu : String) (start finish : Timestamp) (sharing : Bool)
    (except : Option String) :
    Unlimited (book.checkConflicts gpu start finish sharing except) := by
  intro reason refused
  unfold checkConflicts at refused
  dsimp only at refused
  split at refused
  · cases refused
  · cases refused

theorem unlimited_requireFields (fields : List (String × String)) :
    Unlimited (requireFields fields) :=
  unlimited_require nofun

/-- A limit is named exactly if one of the two numbers has reached its cap. -/
theorem checkCaps_eq_refuse {user gpu : String} :
    (∃ reason, book.checkCaps user gpu = refuse (.limitExceeded reason)) ↔
      book.config.maxPerUser ≤ book.liveCount (·.user = user) ∨
        book.config.maxPerGpu ≤ book.liveCount (·.gpu = gpu) := by
  simp only [checkCaps, refuse, Outcome.bind_eq_error, require_eq_error, require_eq_ok,
    Failure.mk.injEq, AllocationError.limitExceeded.injEq, and_true, exists_const, Nat.not_lt]
  constructor
  · intro refused
    obtain ⟨reason, ⟨full, _⟩ | ⟨_, full, _⟩⟩ := refused
    · exact .inl full
    · exact .inr full
  · intro full
    by_cases room : book.liveCount (·.user = user) < book.config.maxPerUser
    · exact ⟨_, .inr ⟨room, full.resolve_left (Nat.not_le.mpr room), rfl⟩⟩
    · exact ⟨_, .inl ⟨Nat.not_lt.mp room, rfl⟩⟩

theorem create_eq_error {request : ReservationRequest} {now : Timestamp} {failure : Failure} :
    (book.create request now).1 = .error failure ↔ book.draft request now = .error failure := by
  unfold create
  cases book.draft request now with
  | error other => exact Iff.rfl
  | ok reservation => exact iff_of_false nofun nofun

theorem create_eq_refuse {request : ReservationRequest} {now : Timestamp} :
    (∃ reason, (book.create request now).1 = refuse (.limitExceeded reason)) ↔
      book.Valid request now ∧
        (book.config.maxPerUser ≤ book.liveCount (·.user = request.user) ∨
          book.config.maxPerGpu ≤ book.liveCount (·.gpu = request.gpu)) := by
  rw [← checkCaps_eq_refuse]
  constructor
  · intro ⟨reason, refused⟩
    have drafted := create_eq_error.mp refused
    unfold draft at drafted
    -- Every check before the caps, and the one after them, fails for something else.
    rcases Outcome.bind_eq_error.mp drafted with unnamed | ⟨_, named, drafted⟩
    · exact absurd unnamed (unlimited_requireFields _ reason)
    rcases Outcome.bind_eq_error.mp drafted with invalid | ⟨share, fraction, drafted⟩
    · exact absurd invalid (unlimited_ofFraction _ reason)
    rcases Outcome.bind_eq_error.mp drafted with past | ⟨_, window, drafted⟩
    · exact absurd past (unlimited_validateWindow _ _ _ reason)
    rcases Outcome.bind_eq_error.mp drafted with endless | ⟨finish, ends, drafted⟩
    · exact absurd endless (unlimited_endOfWindow _ _ reason)
    refine ⟨⟨named, ⟨share, fraction⟩, window, ⟨finish, ends⟩⟩, reason, ?_⟩
    rcases Outcome.bind_eq_error.mp drafted with capped | ⟨_, _, drafted⟩
    · exact capped
    rcases Outcome.bind_eq_error.mp drafted with overlaps | ⟨_, _, drafted⟩
    · exact absurd overlaps (unlimited_checkConflicts _ _ _ _ _ reason)
    · cases drafted
  · intro ⟨valid, reason, capped⟩
    obtain ⟨named, ⟨share, fraction⟩, window, ⟨finish, ends⟩⟩ := valid
    refine ⟨reason, create_eq_error.mpr ?_⟩
    unfold draft
    rw [named, fraction, window, ends, capped]
    rfl

end Refusals

/-- The pending and the active reservations of one holder. -/
def heldBy (book : ReservationBook) (holder : Reservation → String) (name : String) :
    List Reservation :=
  book.records.values.filter fun record =>
    (record.status = .pending ∨ record.status = .active) ∧ holder record = name

theorem isLive_iff {record : Reservation} :
    record.isLive ↔ record.status = .pending ∨ record.status = .active := by
  unfold Reservation.isLive
  cases record.status with
  | pending | active | completed | cancelled | expired =>
      simp [ReservationStatus.isTerminal]

theorem liveCount_eq_length (book : ReservationBook) (holder : Reservation → String)
    (name : String) : book.liveCount (holder · = name) = (book.heldBy holder name).length := by
  unfold liveCount heldBy
  congr 1
  refine List.filter_congr fun record _ => ?_
  rw [Bool.eq_iff_iff, Bool.and_eq_true, isLive_iff, decide_eq_true_eq, decide_eq_true_eq]

/-- Under every policy and at whatever times a book is used, no user and no device has more live
reservations than its cap allows. A valid request is refused for a limit exactly if its user or
its device has as many as that; an invalid one never is. -/
theorem run_within_caps (config : ReservationConfig) (operations : List Operation) :
    let book := ({ config } : ReservationBook).run operations
    (∀ user, (book.heldBy (·.user) user).length ≤ config.maxPerUser) ∧
      (∀ gpu, (book.heldBy (·.gpu) gpu).length ≤ config.maxPerGpu) ∧
      ∀ request now,
        (∃ reason, (book.create request now).1 = refuse (.limitExceeded reason)) ↔
          book.Valid request now ∧
            (config.maxPerUser ≤ (book.heldBy (·.user) request.user).length ∨
              config.maxPerGpu ≤ (book.heldBy (·.gpu) request.gpu).length) := by
  intro book
  have moderate : book.Moderate config := (moderate_new config).run operations
  simp only [← liveCount_eq_length]
  refine ⟨moderate.users, moderate.gpus, fun request now => ?_⟩
  rw [create_eq_refuse, moderate.limits]

end ReservationBook

end GpuSharing
