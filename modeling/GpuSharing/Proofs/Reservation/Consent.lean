import GpuSharing.Proofs.Reservation.Run

/-!
# Overlaps by consent

Of two live reservations of one device that overlap, at least one is of a kind that
the policy lets overlap. Only the one that is entered or revised is checked, against
all others and with its own consent; the consent of the others is what they were let
in with, or has been withdrawn under a check of its own.
-/

set_option autoImplicit false

namespace GpuSharing

/-- Who may overlap without consent may do so with it. -/
theorem ConflictPolicy.permits_mono {policy : ConflictPolicy} {before after : Bool}
    (more : before → after) (permitted : policy.permits before) : policy.permits after := by
  cases policy with
  | strict => exact permitted
  | flexible => exact more permitted
  | overlap => rfl

namespace Reservation

variable {a b : Reservation} {policy : ConflictPolicy}

/-- An instant lies in the window, which includes both of its ends. -/
def Covers (reservation : Reservation) (instant : Timestamp) : Prop :=
  reservation.start ≤ instant ∧ instant ≤ reservation.finish

/-- If two reservations overlap, the policy permits it to one of them. -/
def Tolerates (policy : ConflictPolicy) (a b : Reservation) : Prop :=
  a.overlaps b.start b.finish → policy.permits a.sharing ∨ policy.permits b.sharing

theorem overlaps_iff {start finish : Timestamp} :
    a.overlaps start finish ↔ a.start ≤ finish ∧ start ≤ a.finish := by
  simp [overlaps, Timestamp.not_lt]

theorem overlaps_of_covers {instant : Timestamp} (first : a.Covers instant)
    (second : b.Covers instant) : a.overlaps b.start b.finish :=
  overlaps_iff.mpr
    ⟨Timestamp.le_trans first.1 second.2, Timestamp.le_trans second.1 first.2⟩

theorem Tolerates.symm (tolerates : Tolerates policy a b) : Tolerates policy b a := by
  intro overlap
  exact (tolerates (overlaps_iff.mpr (overlaps_iff.mp overlap).symm)).symm

end Reservation

namespace ReservationBook

variable {book : ReservationBook}

/-- A relation holds between any two live reservations of one device. -/
def EachPair (book : ReservationBook) (relation : Reservation → Reservation → Prop) : Prop :=
  ∀ first second a b, first ≠ second → book.records.get? first = some a →
    book.records.get? second = some b → a.isLive → b.isLive → a.gpu = b.gpu → relation a b

theorem EachPair.imp {relation weaker : Reservation → Reservation → Prop}
    (pairs : book.EachPair relation) (implies : ∀ a b, relation a b → weaker a b) :
    book.EachPair weaker :=
  fun first second a b differ firstFound secondFound firstLive secondLive same =>
    implies a b (pairs first second a b differ firstFound secondFound firstLive secondLive same)

/-- A record that gets along with all others may be entered or replaced. -/
theorem EachPair.store {relation : Reservation → Reservation → Prop}
    (pairs : book.EachPair relation) (symmetric : ∀ a b, relation a b → relation b a)
    {changed : Reservation}
    (others : ∀ id other, id ≠ changed.id → book.records.get? id = some other →
      other.isLive → changed.isLive → other.gpu = changed.gpu → relation other changed) :
    (book.store changed).EachPair relation := by
  intro first second a b differ firstFound secondFound firstLive secondLive same
  rw [get?_store] at firstFound secondFound
  by_cases isFirst : first = changed.id
  · rw [if_pos isFirst, Option.some.injEq] at firstFound
    rw [if_neg (isFirst ▸ differ.symm)] at secondFound
    subst firstFound
    exact symmetric _ _ (others second b (isFirst ▸ differ.symm) secondFound secondLive firstLive
      same.symm)
  · rw [if_neg isFirst] at firstFound
    by_cases isSecond : second = changed.id
    · rw [if_pos isSecond, Option.some.injEq] at secondFound
      subst secondFound
      exact others first a isFirst firstFound firstLive secondLive same
    · rw [if_neg isSecond] at secondFound
      exact pairs first second a b differ firstFound secondFound firstLive secondLive same

/-- No two live reservations of a device are in each other's way. -/
structure Consenting (book : ReservationBook) : Prop where
  filed : book.Filed
  pairs : book.EachPair (Reservation.Tolerates book.config.conflictPolicy)

theorem consenting_new (config : ReservationConfig) : ({ config } : ReservationBook).Consenting :=
  ⟨filed_new config, fun _ _ _ _ _ found => by cases found⟩

/-- Whoever passes the check of a window is tolerated by everyone else. -/
theorem tolerates_of_checkConflicts {changed other : Reservation} {except : Option String}
    {result : Unit}
    (checked : book.checkConflicts changed.gpu changed.start changed.finish changed.sharing
      except = .ok result)
    {id : String} (found : book.records.get? id = some other) (live : other.isLive)
    (elsewhere : some other.id ≠ except) (same : other.gpu = changed.gpu) :
    Reservation.Tolerates book.config.conflictPolicy other changed := by
  intro overlap
  rcases checkConflicts_eq_ok.mp checked with free | permitted
  · have conflict := mem_conflicts.mpr ⟨⟨id, found⟩, same, live, elsewhere, overlap⟩
    rw [free] at conflict
    cases conflict
  · exact .inr permitted

theorem Consenting.draft (consenting : book.Consenting) {request : ReservationRequest}
    {now : Timestamp} {reservation : Reservation}
    (drafted : book.draft request now = .ok reservation) :
    (book.store reservation).Consenting := by
  obtain ⟨_, _, _, _, _, _, _, checked, rfl⟩ := draft_eq_ok.mp drafted
  refine ⟨consenting.filed.store _, consenting.pairs.store (fun _ _ => .symm) ?_⟩
  intro id other _ found live _ same
  exact tolerates_of_checkConflicts checked found live (by simp) same

/-- Unless it is checked anew, a revised record has the window that it had, and has not
withdrawn its consent. -/
theorem Consenting.revise (consenting : book.Consenting) {id : String}
    {current updated : Reservation} {patch : ReservationPatch} {now : Timestamp}
    (found : book.records.get? id = some current)
    (revises : book.Revises current patch now updated) : (book.store updated).Consenting := by
  refine ⟨consenting.filed.store _, consenting.pairs.store (fun _ _ => .symm) ?_⟩
  intro place other elsewhere otherFound live _ same
  have named : current.id = id := consenting.filed id current found
  have otherNamed : other.id = place := consenting.filed place other otherFound
  have apart : place ≠ id := by rwa [revises.id_eq, named] at elsewhere
  cases recheck : patch.start.isSome || patch.duration.isSome ||
      current.sharing && !updated.sharing with
  | true =>
      refine tolerates_of_checkConflicts (revises.checked recheck) otherFound live ?_ same
      rw [otherNamed, named]
      exact fun here => apart (Option.some.inj here)
  | false =>
      simp only [Bool.or_eq_false_iff, Option.isSome_eq_false_iff, Option.isNone_iff_eq_none]
        at recheck
      obtain ⟨⟨sameStart, sameDuration⟩, kept⟩ := recheck
      have start : updated.start = current.start := by rw [revises.start_eq, sameStart]; rfl
      have finish := revises.finish_eq sameStart sameDuration
      have before := consenting.pairs place id other current apart otherFound found live
        revises.live (same.trans revises.gpu_eq)
      intro overlap
      rw [start, finish] at overlap
      refine (before overlap).imp_right (ConflictPolicy.permits_mono fun shared => ?_)
      simpa [shared] using kept

theorem Consenting.conclude (consenting : book.Consenting) {current : Reservation}
    {status : ReservationStatus} (terminal : status.isTerminal) (now : Timestamp) :
    (book.store { current with status, updatedAt := now }).Consenting := by
  refine ⟨consenting.filed.store _, consenting.pairs.store (fun _ _ => .symm) ?_⟩
  intro _ _ _ _ _ live _
  simp [Reservation.isLive, terminal] at live

theorem Consenting.sweep (consenting : book.Consenting) (now : Timestamp) :
    (book.sweep now).2.Consenting := by
  refine ⟨consenting.filed.sweep now, ?_⟩
  intro first second a b differ firstFound secondFound firstLive secondLive same
  rw [get?_sweep, Option.map_eq_some_iff] at firstFound secondFound
  obtain ⟨a, firstFound, rfl⟩ := firstFound
  obtain ⟨b, secondFound, rfl⟩ := secondFound
  obtain ⟨_, _, firstSame, firstWasLive⟩ := swept_eq a now
  obtain ⟨_, _, secondSame, secondWasLive⟩ := swept_eq b now
  have earlier := consenting.pairs first second a b differ firstFound secondFound
    (firstWasLive firstLive) (secondWasLive secondLive)
  rw [firstSame, secondSame] at same ⊢
  exact earlier same

theorem Consenting.perform (consenting : book.Consenting) (operation : Operation) :
    (book.perform operation).Consenting :=
  perform_keeps Consenting consenting (fun _ _ _ drafted => consenting.draft drafted)
    (fun _ _ _ _ _ found revises => consenting.revise found revises)
    (fun _ _ _ now _ _ terminal => consenting.conclude terminal now) consenting.sweep operation

theorem Consenting.run (consenting : book.Consenting) (operations : List Operation) :
    (book.run operations).Consenting :=
  run_keeps Consenting (fun _ operation consenting => consenting.perform operation) consenting
    operations

/-- In every state of a book, two live reservations of a device with an instant in common
include one that the policy permits to overlap. -/
theorem permits_of_common_instant (config : ReservationConfig) (operations : List Operation) :
    (({ config } : ReservationBook).run operations).EachPair fun a b =>
      (∃ instant, a.Covers instant ∧ b.Covers instant) →
        config.conflictPolicy.permits a.sharing ∨ config.conflictPolicy.permits b.sharing := by
  have consenting := (consenting_new config).run operations
  refine consenting.pairs.imp fun a b tolerates ⟨instant, first, second⟩ => ?_
  have permitted := tolerates (Reservation.overlaps_of_covers first second)
  rwa [config_run] at permitted

/-- Under the strict policy, no instant is reserved twice on a device. -/
theorem run_strict_exclusive (config : ReservationConfig) (operations : List Operation) :
    (({ config := { config with conflictPolicy := .strict } } : ReservationBook).run
      operations).EachPair fun a b => ¬∃ instant, a.Covers instant ∧ b.Covers instant := by
  refine (permits_of_common_instant _ operations).imp fun a b permitted common => ?_
  rcases permitted common with never | never
  · cases never
  · cases never

/-- Under the flexible policy, an instant is reserved twice on a device only where one of
the two reservations accepts company. -/
theorem run_flexible_shared (config : ReservationConfig) (operations : List Operation) :
    (({ config := { config with conflictPolicy := .flexible } } : ReservationBook).run
      operations).EachPair fun a b =>
        (∃ instant, a.Covers instant ∧ b.Covers instant) → a.sharing ∨ b.sharing :=
  permits_of_common_instant _ operations

/-- The consent of the newcomer is enough. -/
example :
    let earlier : ReservationRequest :=
      { user := "alice"
        workload := "train"
        gpu := "card0"
        start := ⟨1700000000, 0⟩
        duration := .ofSeconds 3600 0 }
    let book := ({ config := { conflictPolicy := .flexible } } : ReservationBook).run
      [.create earlier ⟨1700000000, 0⟩,
        .create { earlier with user := "bob", sharing := true } ⟨1700000000, 0⟩]
    (book.records.values.filter (·.isLive)).map (·.sharing) = [false, true] := by
  decide +kernel

end ReservationBook

end GpuSharing
