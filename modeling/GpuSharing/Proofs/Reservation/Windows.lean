import GpuSharing.Proofs.Reservation.Run
import GpuSharing.Proofs.Share

/-!
# Windows of reservations

A window ends a span after it starts, and is as long as that span, unless it starts in a leap
second that it loses. Every record of a book has a window of some length within the limit, and
a share of a tenth of a device at least.
-/

set_option autoImplicit false

namespace GpuSharing

namespace Timestamp

/-- A span that begins in a leap second and leaves it loses that second where it ends no later in
the day than it began. -/
def losesLeap (time : Timestamp) (span : Duration) : Bool :=
  time.isLeap && 2 * nanosPerSecond ≤ time.nanos + span.nanos &&
    !time.leapBetween (time.advance span)

section Spans

variable {time : Timestamp} {span : Duration}

theorem isLeap_iff : time.isLeap ↔ nanosPerSecond ≤ time.nanos := by
  simp [isLeap]

/-- The three ways in which a span runs: within a leap second, out of one, or from no leap second. -/
theorem advance_cases (time : Timestamp) {span : Duration} (positive : .zero < span) :
    (time.isLeap ∧ time.nanos + span.nanos < 2 * nanosPerSecond ∧
      time.advance span = ⟨time.seconds, (time.nanos + span.nanos).toNat⟩) ∨
    (time.isLeap ∧ 2 * nanosPerSecond ≤ time.nanos + span.nanos ∧
      time.advance span = carried time.seconds (time.nanos + span.nanos - nanosPerSecond)) ∨
    (¬ time.isLeap ∧ time.advance span = carried time.seconds (time.nanos + span.nanos)) := by
  have positive : 0 < span.nanos := positive
  unfold advance
  by_cases leap : time.isLeap
  · have far : (nanosPerSecond : Int) ≤ time.nanos + span.nanos := by
      have full := isLeap_iff.mp leap
      omega
    simp only [leap, far, decide_true, Bool.and_self, if_true]
    split
    · rename_i near
      exact .inl ⟨trivial, near, rfl⟩
    · rename_i beyond
      exact .inr (.inl ⟨trivial, Int.not_lt.mp beyond, rfl⟩)
  · simp only [leap, Bool.false_and, Bool.false_eq_true, if_false]
    exact .inr (.inr ⟨id, trivial⟩)

theorem carried_nanos_lt (seconds nanos : Int) : (carried seconds nanos).nanos < nanosPerSecond := by
  unfold carried nanosPerSecond
  dsimp only
  omega

theorem carried_isLeap (seconds nanos : Int) : (carried seconds nanos).isLeap = false :=
  decide_eq_false (Nat.not_le.mpr (carried_nanos_lt seconds nanos))

theorem carried_total (seconds nanos : Int) :
    (carried seconds nanos).seconds * nanosPerSecond + (carried seconds nanos).nanos =
      seconds * nanosPerSecond + nanos := by
  unfold carried nanosPerSecond
  dsimp only
  omega

/-- The span since an earlier time counts at most the leap second that it begins in. -/
theorem nanos_since {later earlier : Timestamp} (regular : later.isLeap = false) :
    (later.since earlier).nanos = (later.seconds * nanosPerSecond + later.nanos) -
      (earlier.seconds * nanosPerSecond + earlier.nanos) +
        if earlier.leapBetween later then nanosPerSecond else 0 := by
  have back : later.leapBetween earlier = false := by rw [leapBetween, regular, Bool.false_and]
  unfold since Duration.ofSeconds nanosPerSecond
  simp only [back, Bool.false_eq_true, if_false]
  split
  · omega
  · omega

theorem lt_advance (time : Timestamp) {span : Duration} (positive : .zero < span) :
    time < time.advance span := by
  have forward : 0 < span.nanos := positive
  rw [lt_iff]
  rcases time.advance_cases positive with ⟨_, _, within⟩ | ⟨_, beyond, out⟩ | ⟨kept, away⟩
  · rw [within]
    dsimp only
    omega
  · have total := carried_total time.seconds (time.nanos + span.nanos - nanosPerSecond)
    have regular := carried_nanos_lt time.seconds (time.nanos + span.nanos - nanosPerSecond)
    rw [out]
    unfold nanosPerSecond at *
    omega
  · have total := carried_total time.seconds (time.nanos + span.nanos)
    have regular := carried_nanos_lt time.seconds (time.nanos + span.nanos)
    rw [isLeap_iff] at kept
    rw [away]
    unfold nanosPerSecond at *
    omega

/-- A span that has been added is found again, but for a leap second that it loses. -/
theorem nanos_since_advance (time : Timestamp) {span : Duration} (positive : .zero < span) :
    ((time.advance span).since time).nanos =
      span.nanos - if time.losesLeap span then nanosPerSecond else 0 := by
  have forward : 0 < span.nanos := positive
  unfold losesLeap
  rcases time.advance_cases positive with ⟨_, near, within⟩ | ⟨leap, beyond, out⟩ | ⟨regular, away⟩
  · have apart : ¬ 2 * (nanosPerSecond : Int) ≤ time.nanos + span.nanos := Int.not_le.mpr near
    have same : ¬ time.secondOfDay < time.secondOfDay := Int.lt_irrefl _
    simp only [within, apart, since, leapBetween, secondOfDay, Duration.ofSeconds] at same ⊢
    simp only [same, decide_false, Bool.and_false, Bool.false_and, Bool.false_eq_true, if_false]
    omega
  · have total := carried_total time.seconds (time.nanos + span.nanos - nanosPerSecond)
    rw [nanos_since (out ▸ carried_isLeap _ _), out, total, leap]
    simp only [beyond, decide_true, Bool.and_self, Bool.true_and]
    cases time.leapBetween (carried time.seconds (time.nanos + span.nanos - nanosPerSecond)) with
    | true =>
        simp only [Bool.not_true, Bool.false_eq_true, if_true, if_false]
        omega
    | false =>
        simp only [Bool.not_false, Bool.false_eq_true, if_true, if_false]
        omega
  · have total := carried_total time.seconds (time.nanos + span.nanos)
    have kept : time.isLeap = false := Bool.eq_false_iff.mpr regular
    rw [nanos_since (away ▸ carried_isLeap _ _), away, total]
    simp only [leapBetween, kept, Bool.false_and, Bool.false_eq_true, if_false]
    omega

theorem since_advance_le (time : Timestamp) {span : Duration} (positive : .zero < span) :
    (time.advance span).since time ≤ span := by
  change ((time.advance span).since time).nanos ≤ span.nanos
  rw [nanos_since_advance time positive]
  split
  · exact Int.sub_le_self _ (Int.natCast_nonneg _)
  · exact (Int.sub_zero _).le

theorem add?_eq_some {later : Timestamp} (ends : time.add? span = some later) :
    later = time.advance span := by
  unfold add? at ends
  dsimp only at ends
  split at ends
  · exact (Option.some.inj ends).symm
  · cases ends

end Spans

end Timestamp

/-- The window has some length, within the limit, and the share is a fraction of a device. -/
structure Reservation.WellFormed (reservation : Reservation) (config : ReservationConfig) :
    Prop where
  begins : reservation.start < reservation.finish
  within : reservation.duration ≤ config.maxDuration
  least : 100 ≤ reservation.fraction.millis.toNat
  most : reservation.fraction.millis.toNat ≤ 1000

namespace ReservationBook

def WellFormed (book : ReservationBook) : Prop :=
  ∀ id record, book.records.get? id = some record → record.WellFormed book.config

theorem wellFormed_new (config : ReservationConfig) :
    ({ config } : ReservationBook).WellFormed :=
  fun _ _ found => by cases found

section Records

variable {book : ReservationBook}

theorem window_of_validateDuration {start finish : Timestamp} {span : Duration}
    (valid : book.validateDuration span = .ok ()) (ends : start.add? span = some finish) :
    start < finish ∧ finish.since start ≤ book.config.maxDuration := by
  obtain ⟨positive, within⟩ := validateDuration_eq_ok.mp valid
  rw [Timestamp.add?_eq_some ends]
  exact ⟨start.lt_advance positive, Int.le_trans (start.since_advance_le positive) within⟩

theorem wellFormed_of_draft {request : ReservationRequest} {now : Timestamp}
    {reservation : Reservation} (drafted : book.draft request now = .ok reservation) :
    reservation.WellFormed book.config := by
  obtain ⟨fraction, finish, _, accepted, window, ends, _, _, rfl⟩ := draft_eq_ok.mp drafted
  have valid : book.validateDuration request.duration = .ok () :=
    validateDuration_eq_ok.mpr (validateWindow_eq_ok.mp window).1
  obtain ⟨begins, within⟩ := window_of_validateDuration valid ends
  obtain ⟨least, most⟩ := Share.ofFraction_bounds accepted
  exact ⟨begins, within, least, most⟩

theorem Revises.wellFormed {current updated : Reservation} {patch : ReservationPatch}
    {now : Timestamp} (revises : book.Revises current patch now updated)
    (wellFormed : current.WellFormed book.config) : updated.WellFormed book.config := by
  have window : updated.start < updated.finish ∧ updated.duration ≤ book.config.maxDuration := by
    by_cases changed : patch.start ≠ none ∨ patch.duration ≠ none
    · obtain ⟨valid, ends⟩ := revises.window changed
      exact window_of_validateDuration valid ends
    · obtain ⟨sameStart, sameDuration⟩ := not_or.mp changed
      have start : updated.start = current.start := by
        rw [revises.start_eq, not_not.mp sameStart]
        rfl
      have finish := revises.finish_eq (not_not.mp sameStart) (not_not.mp sameDuration)
      rw [Reservation.duration, start, finish]
      exact ⟨wellFormed.begins, wellFormed.within⟩
  have share : 100 ≤ updated.fraction.millis.toNat ∧ updated.fraction.millis.toNat ≤ 1000 := by
    have vetted := revises.fraction_eq
    cases asked : patch.fraction with
    | some fraction => exact Share.ofFraction_bounds (by simpa only [asked] using vetted)
    | none =>
        rw [asked] at vetted
        rw [← Except.ok.inj vetted]
        exact ⟨wellFormed.least, wellFormed.most⟩
  exact ⟨window.1, window.2, share.1, share.2⟩

theorem WellFormed.store (wellFormed : book.WellFormed) {changed : Reservation}
    (proper : changed.WellFormed book.config) : (book.store changed).WellFormed := by
  intro id record found
  rw [get?_store] at found
  split at found
  · exact Option.some.inj found ▸ proper
  · exact wellFormed id record found

theorem WellFormed.perform (wellFormed : book.WellFormed) (operation : Operation) :
    (book.perform operation).WellFormed := by
  refine perform_keeps WellFormed wellFormed ?drafted ?revised ?concluded ?swept operation
  case drafted => exact fun _ _ _ drafted => wellFormed.store (wellFormed_of_draft drafted)
  case revised =>
    intro id current patch now updated found revises
    exact wellFormed.store (revises.wellFormed (wellFormed id current found))
  case concluded =>
    intro id current status now found _ _
    have proper := wellFormed id current found
    exact wellFormed.store ⟨proper.begins, proper.within, proper.least, proper.most⟩
  case swept =>
    intro now id record found
    rw [get?_sweep, Option.map_eq_some_iff] at found
    obtain ⟨earlier, known, rfl⟩ := found
    have proper := wellFormed id earlier known
    obtain ⟨_, _, same, _⟩ := swept_eq earlier now
    rw [same]
    exact ⟨proper.begins, proper.within, proper.least, proper.most⟩

theorem WellFormed.run (wellFormed : book.WellFormed) (operations : List Operation) :
    (book.run operations).WellFormed :=
  run_keeps WellFormed (fun _ operation wellFormed => wellFormed.perform operation) wellFormed
    operations

end Records

end ReservationBook

end GpuSharing
