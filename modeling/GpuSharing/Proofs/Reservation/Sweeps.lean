import GpuSharing.Proofs.Reservation.DueQueue
import GpuSharing.Proofs.Reservation.Run

/-!
# What a sweep does

A sweep expires what is over and activates what is due, and leaves all else alone. Whichever
queue decides between the equally urgent, the records come out the same, and so do they however
many sweeps come before: only the latest time counts.
-/

set_option autoImplicit false

namespace GpuSharing

namespace ReservationBook

section Status

/-- The status of a record in a book. -/
def status? (book : ReservationBook) (id : String) : Option ReservationStatus :=
  (book.records.get? id).map (·.status)

theorem isOverAt_iff {reservation : Reservation} {now : Timestamp} :
    reservation.isOverAt now ↔ reservation.isLive ∧ reservation.finish ≤ now := by
  simp [Reservation.isOverAt]

theorem status_swept (reservation : Reservation) (now : Timestamp) :
    (reservation.swept now).status =
      if reservation.isLive ∧ reservation.finish ≤ now then .expired
      else if reservation.status = .pending ∧ reservation.start ≤ now then .active
      else reservation.status := by
  unfold Reservation.swept
  simp only [isOverAt_iff, isDueAt_iff]
  by_cases past : reservation.isLive ∧ reservation.finish ≤ now
  · rw [if_pos past, if_pos past]
  · rw [if_neg past, if_neg past]
    by_cases due : reservation.status = .pending ∧ reservation.start ≤ now
    · have live : reservation.isLive := by rw [Reservation.isLive, due.1]; rfl
      have lasts : now < reservation.finish :=
        Timestamp.not_le.mp fun ended => past ⟨live, ended⟩
      rw [if_pos due, if_pos ⟨due.1, due.2, lasts⟩]
    · rw [if_neg due, if_neg fun begun => due ⟨begun.1, begun.2.1⟩]

/-- Of two sweeps only the later time counts, whichever comes first. -/
theorem status_swept_swept (reservation : Reservation) (first second : Timestamp) :
    ((reservation.swept first).swept second).status =
      (reservation.swept (max first second)).status := by
  obtain ⟨_, _, same, _⟩ := swept_eq reservation first
  have start : (reservation.swept first).start = reservation.start := by rw [same]
  have finish : (reservation.swept first).finish = reservation.finish := by rw [same]
  rw [status_swept (reservation.swept first), start, finish, Reservation.isLive,
    status_swept reservation first, status_swept reservation (max first second),
    Reservation.isLive]
  simp only [Timestamp.le_max_iff]
  cases status : reservation.status with
  | pending =>
      by_cases ended : reservation.finish ≤ first
      · simp [ended, ReservationStatus.isTerminal]
      · by_cases begun : reservation.start ≤ first
        · simp [ended, begun, ReservationStatus.isTerminal]
        · simp [ended, begun, ReservationStatus.isTerminal]
  | active =>
      by_cases ended : reservation.finish ≤ first
      · simp [ended, ReservationStatus.isTerminal]
      · simp [ended, ReservationStatus.isTerminal]
  | completed | cancelled | expired => simp [ReservationStatus.isTerminal]

end Status

/-- The window of the one starts earlier, or at the same time with no lower priority. -/
def NoLessUrgent (book : ReservationBook) (id other : String) : Prop :=
  ∀ first second, book.records.get? id = some first → book.records.get? other = some second →
    first.start < second.start ∨ first.start = second.start ∧ second.priority ≤ first.priority

/-- What a sweep reports and what it leaves. -/
structure Sweeps (book : ReservationBook) (now : Timestamp) (outcome : SweepOutcome)
    (next : ReservationBook) : Prop where
  expired : ∀ id, id ∈ outcome.expired ↔
    ∃ record, book.records.get? id = some record ∧ record.isLive ∧ record.finish ≤ now
  expired_in_order : outcome.expired.Pairwise (· < ·)
  activated : ∀ id, id ∈ outcome.activated ↔
    ∃ record, book.records.get? id = some record ∧
      record.status = .pending ∧ record.start ≤ now ∧ now < record.finish
  activated_once : outcome.activated.Nodup
  activated_in_order : outcome.activated.Pairwise book.NoLessUrgent
  records : ∀ id, next.records.get? id = (book.records.get? id).map fun record =>
    if id ∈ outcome.expired then { record with status := .expired, updatedAt := now }
    else if id ∈ outcome.activated then { record with status := .active, updatedAt := now }
    else record
  config : next.config = book.config

section Sweeping

variable {book : ReservationBook}

theorem Filed.ids_eq (filed : book.Filed) : book.records.values.map (·.id) = book.records.keys := by
  unfold Keyed.values Keyed.keys
  rw [List.map_map]
  refine List.map_congr_left fun entry member => ?_
  exact filed entry.1 entry.2 (Keyed.mem_entries.mp member)

theorem Filed.mem_ids (filed : book.Filed) (accepts : Reservation → Bool) (id : String) :
    id ∈ (book.records.values.filter accepts).map (·.id) ↔
      ∃ record, book.records.get? id = some record ∧ accepts record := by
  simp only [List.mem_map, List.mem_filter, Keyed.mem_values]
  constructor
  · rintro ⟨record, ⟨⟨key, found⟩, accepted⟩, rfl⟩
    exact ⟨record, filed key record found ▸ found, accepted⟩
  · rintro ⟨record, found, accepted⟩
    exact ⟨record, ⟨⟨id, found⟩, accepted⟩, filed id record found⟩

theorem Filed.mem_ids_of_found (filed : book.Filed) (accepts : Reservation → Bool) {id : String}
    {record : Reservation} (found : book.records.get? id = some record) :
    id ∈ (book.records.values.filter accepts).map (·.id) ↔ accepts record := by
  rw [filed.mem_ids, found]
  simp

theorem Filed.ids_ascending (filed : book.Filed) (accepts : Reservation → Bool) :
    ((book.records.values.filter accepts).map (·.id)).Pairwise (· < ·) := by
  have all : (book.records.values.map (·.id)).Pairwise (· < ·) := by
    rw [filed.ids_eq]
    exact List.pairwise_map.mpr book.records.ascending
  exact all.sublist (List.filter_sublist.map _)

theorem Filed.ids_nodup (filed : book.Filed) (accepts : Reservation → Bool) :
    ((book.records.values.filter accepts).map (·.id)).Nodup :=
  (filed.ids_ascending accepts).imp ne_of_lt

/-- What a sweep queues comes out once, the most urgent first. -/
theorem Filed.drain_due (filed : book.Filed) (queue : DueQueue) (now : Timestamp) :
    let due := book.records.values.filter (·.isDueAt now)
    ∃ order : List (String × Urgency),
      order.Perm (due.map fun record => (record.id, record.urgency)) ∧
      queue.drain (due.foldl (fun state record => queue.push state record.id record.urgency)
        queue.empty) = order.map (·.1) ∧
      order.Pairwise fun sooner later => later.2 ≤ sooner.2 := by
  intro due
  have queued := queue.entries_foldl_push queue.empty (filed.ids_nodup (·.isDueAt now))
    fun _ _ => by simp [queue.entries_empty]
  rw [queue.entries_empty, List.append_nil] at queued
  obtain ⟨order, same, given, sorted⟩ := queue.drain_sorted (due.foldl
    (fun state record => queue.push state record.id record.urgency) queue.empty)
  exact ⟨order, same.trans queued, given, sorted⟩

theorem Filed.activated_perm (filed : book.Filed) (queue : DueQueue) (now : Timestamp) :
    (book.sweepWith queue now).1.activated.Perm
      ((book.records.values.filter (·.isDueAt now)).map (·.id)) := by
  obtain ⟨order, same, given, _⟩ := filed.drain_due queue now
  refine List.Perm.trans (.of_eq given) ((same.map _).trans (.of_eq ?_))
  rw [List.map_map]
  rfl

theorem Filed.activated_nodup (filed : book.Filed) (queue : DueQueue) (now : Timestamp) :
    (book.sweepWith queue now).1.activated.Nodup :=
  (filed.activated_perm queue now).nodup_iff.mpr (filed.ids_nodup _)

theorem Filed.mem_activated (filed : book.Filed) (queue : DueQueue) (now : Timestamp) {id : String}
    {record : Reservation} (found : book.records.get? id = some record) :
    id ∈ (book.sweepWith queue now).1.activated ↔ record.isDueAt now :=
  (filed.activated_perm queue now).mem_iff.trans (filed.mem_ids_of_found (·.isDueAt now) found)

/-- Whichever queue decides, a record is ended, activated or left alone by its own terms. -/
theorem Filed.get?_sweepWith (filed : book.Filed) (queue : DueQueue) (now : Timestamp)
    (id : String) :
    (book.sweepWith queue now).2.records.get? id = (book.records.get? id).map (·.swept now) := by
  refine (Keyed.get?_foldl_modify _ (filed.activated_nodup queue now) _ id).trans ?_
  rw [Keyed.get?_map]
  cases found : book.records.get? id with
  | none => simp
  | some record =>
      have activated := filed.mem_activated queue now found
      simp only [Option.map_some, Reservation.swept]
      by_cases past : record.isOverAt now
      · have lasts : ¬ record.isDueAt now := fun due =>
          absurd (isOverAt_iff.mp past).2 (Timestamp.not_le.mpr (isDueAt_iff.mp due).2.2)
        rw [if_neg (mt activated.mp lasts), if_pos past, if_pos past]
      · by_cases due : record.isDueAt now
        · rw [if_pos (activated.mpr due), if_neg past, if_neg past, if_pos due]
        · rw [if_neg (mt activated.mp due), if_neg past, if_neg past, if_neg due]

theorem Filed.activated_in_order (filed : book.Filed) (queue : DueQueue) (now : Timestamp) :
    (book.sweepWith queue now).1.activated.Pairwise book.NoLessUrgent := by
  obtain ⟨order, same, given, sorted⟩ := filed.drain_due queue now
  -- What is queued under a name is the urgency of its record.
  have urgency (entry : String × Urgency) (member : entry ∈ order) (record : Reservation)
      (found : book.records.get? entry.1 = some record) : entry.2 = record.urgency := by
    obtain ⟨other, due, rfl⟩ := List.mem_map.mp (same.mem_iff.mp member)
    obtain ⟨key, stored⟩ := Keyed.mem_values.mp (List.mem_filter.mp due).1
    rw [filed key other stored, stored] at found
    rw [Option.some.inj found]
  refine (congrArg (List.Pairwise book.NoLessUrgent) given).mpr (List.pairwise_map.mpr ?_)
  refine sorted.imp_of_mem fun {sooner later} soonerIn laterIn less first second firstFound
    secondFound => ?_
  rw [urgency sooner soonerIn first firstFound, urgency later laterIn second secondFound] at less
  exact less.imp id fun tie => ⟨tie.1.symm, tie.2⟩

theorem Filed.sweeps (filed : book.Filed) (queue : DueQueue) (now : Timestamp) :
    book.Sweeps now (book.sweepWith queue now).1 (book.sweepWith queue now).2 where
  expired id := (filed.mem_ids (·.isOverAt now) id).trans (by simp only [isOverAt_iff])
  expired_in_order := filed.ids_ascending _
  activated id := by
    rw [(filed.activated_perm queue now).mem_iff]
    exact (filed.mem_ids (·.isDueAt now) id).trans (by simp only [isDueAt_iff])
  activated_once := filed.activated_nodup queue now
  activated_in_order := filed.activated_in_order queue now
  records id := by
    rw [filed.get?_sweepWith queue now]
    refine Option.map_congr fun record found => ?_
    have ended := filed.mem_ids_of_found (·.isOverAt now) found
    have begun := filed.mem_activated queue now found
    exact if_congr ended.symm rfl (if_congr begun.symm rfl rfl)
  config := rfl

/-- One sweep after another, whatever their queues, leaves the statuses of the latest one. -/
theorem Filed.status?_sweepWith (filed : book.Filed) (earlier later single : DueQueue)
    (first second : Timestamp) (id : String) :
    ((book.sweepWith earlier first).2.sweepWith later second).2.status? id =
      (book.sweepWith single (max first second)).2.status? id := by
  have swept : (book.sweepWith earlier first).2.Filed := by
    intro name record found
    rw [filed.get?_sweepWith, Option.map_eq_some_iff] at found
    obtain ⟨before, known, rfl⟩ := found
    obtain ⟨_, _, same, _⟩ := swept_eq before first
    rw [same]
    exact filed name before known
  unfold status?
  rw [swept.get?_sweepWith, filed.get?_sweepWith, filed.get?_sweepWith]
  simp only [Option.map_map]
  exact Option.map_congr fun record _ => status_swept_swept record first second

/-- The sweep in which names decide between the equally urgent is a sweep with a queue. -/
theorem Filed.sweep_eq (filed : book.Filed) (now : Timestamp) :
    book.sweep now = book.sweepWith .named now := by
  have sorted (due : List Reservation) : (due.mergeSort Reservation.activationOrder).map (·.id) =
      DueQueue.named.drain (due.foldl
        (fun state record => DueQueue.named.push state record.id record.urgency) []) := by
    have keyed : (due.mergeSort Reservation.activationOrder).map
        (fun record => (record.id, record.urgency)) =
          (due.map fun record => (record.id, record.urgency)).mergeSort DueQueue.urgentFirst :=
      List.map_mergeSort fun _ _ _ _ => rfl
    rw [DueQueue.foldl_push_named, List.nil_append, DueQueue.drain_named, ← keyed, List.map_map]
    rfl
  refine Prod.ext (congrArg (SweepOutcome.mk · _) (sorted _)) ?_
  refine congrArg (ReservationBook.mk book.config) (Keyed.ext_get? fun id => ?_)
  exact (Keyed.get?_map ..).trans (filed.get?_sweepWith .named now id).symm

end Sweeping

/-- Whichever queue gives out what is due, a sweep does what the time says and no more, and
sweeps at two times, in either order, leave the statuses of one sweep at the later time. -/
theorem sweeps_by_time (book : ReservationBook) (filed : book.Filed) :
    (∀ now, book.sweep now = book.sweepWith .named now) ∧
    (∀ queue now, book.Sweeps now (book.sweepWith queue now).1 (book.sweepWith queue now).2) ∧
    ∀ earlier later single first second id,
      ((book.sweepWith earlier first).2.sweepWith later second).2.status? id =
        (book.sweepWith single (max first second)).2.status? id :=
  ⟨filed.sweep_eq, filed.sweeps, filed.status?_sweepWith⟩

/-- Of four windows one is over and two have begun; a clock that steps back from beyond the end of
one of these does not bring it back. -/
theorem sweeps_by_time_stepping_back :
    let request (gpu : String) (start length priority : Int) : ReservationRequest :=
      { user := "alice"
        workload := "train"
        gpu
        start := ⟨start, 0⟩
        duration := .ofSeconds length 0
        priority }
    let book := ({ config := {} } : ReservationBook).run
      [.create (request "card0" 10 5 1) .epoch, .create (request "card1" 10 90 5) .epoch,
        .create (request "card2" 5 3 9) .epoch, .create (request "card3" 13 1 7) .epoch]
    book.Filed ∧
      book.Sweeps ⟨12, 0⟩ (book.sweep ⟨12, 0⟩).1 (book.sweep ⟨12, 0⟩).2 ∧
      (book.sweep ⟨12, 0⟩).1.expired = ["res-alice-card2-0"] ∧
      (book.sweep ⟨12, 0⟩).2.status? "res-alice-card0-0" = some .active ∧
      ((book.sweepWith .named ⟨20, 0⟩).2.sweepWith .named ⟨12, 0⟩).2.status?
        "res-alice-card0-0" = some .expired := by
  intro request book
  have filed : book.Filed := (filed_new {}).run _
  obtain ⟨same, sweeps, latest⟩ := sweeps_by_time book filed
  refine ⟨filed, same ⟨12, 0⟩ ▸ sweeps .named ⟨12, 0⟩, by decide +kernel, by decide +kernel, ?_⟩
  rw [latest .named .named .named, ← same]
  decide +kernel

end ReservationBook

end GpuSharing
