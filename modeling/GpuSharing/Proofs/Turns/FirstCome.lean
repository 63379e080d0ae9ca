import GpuSharing.Proofs.Turns.Line

/-!
# First come, first served

However operations are mixed, those who wait for the turn of a device get it in the order of
their arrival: nobody is overtaken, and nobody waits for more rotations than there are others
ahead.
-/

set_option autoImplicit false

namespace GpuSharing

namespace TimeSlicingScheduler

/-- Who has the turn of a device after each of its rotations. -/
def turnsOn (scheduler : TimeSlicingScheduler) (device : String) :
    List Operation → List (Option String)
  | [] => []
  | operation :: rest =>
      let next := scheduler.perform operation
      if scheduler.rotates device operation then
        (next.lineOn device).active :: next.turnsOn device rest
      else next.turnsOn device rest

def namesOn (scheduler : TimeSlicingScheduler) (device : String) : List String :=
  (scheduler.ledger.liveOn device).map (·.id)

/-- It lives on the device, and does not have the turn. -/
def Waits (scheduler : TimeSlicingScheduler) (device id : String) : Prop :=
  id ∈ scheduler.namesOn device ∧ (scheduler.lineOn device).active ≠ some id

/-- It holds before the first of the operations and after each of them. -/
def Throughout (scheduler : TimeSlicingScheduler) (operations : List Operation)
    (holds : TimeSlicingScheduler → Prop) : Prop :=
  ∀ done, done.IsPrefix operations → holds (scheduler.run done)

structure FirstComeFirstServed (scheduler : TimeSlicingScheduler) (device : String)
    (continuation : List Operation) : Prop where
  in_order : ∀ waiting : List String, waiting.Sublist (scheduler.lineOn device).queue →
    scheduler.Throughout continuation (fun later => ∀ id ∈ waiting, later.Waits device id) →
    waiting.Sublist ((scheduler.run continuation).lineOn device).queue
  not_overtaken : ∀ ahead id, (ahead ++ [id]).IsPrefix (scheduler.lineOn device).queue →
    scheduler.Throughout continuation (·.Waits device id) →
    ∃ left, left.Sublist ahead ∧
      (left ++ [id]).IsPrefix ((scheduler.run continuation).lineOn device).queue
  served : ∀ ahead id, (ahead ++ [id]).IsPrefix (scheduler.lineOn device).queue →
    scheduler.Throughout continuation (id ∈ ·.namesOn device) →
    ahead.length < (scheduler.turnsOn device continuation).length →
    (scheduler.turnsOn device continuation).idxOf (some id) ≤ ahead.length
  /-- Provided that nobody ahead goes away before having had the turn. -/
  served_exactly : ∀ ahead id, (ahead ++ [id]).IsPrefix (scheduler.lineOn device).queue →
    scheduler.Throughout continuation (id ∈ ·.namesOn device) →
    (∀ done, done.IsPrefix continuation → ∀ other ∈ ahead,
      other ∈ (scheduler.run done).namesOn device ∨ some other ∈ scheduler.turnsOn device done) →
    ahead.length < (scheduler.turnsOn device continuation).length →
    (scheduler.turnsOn device continuation).idxOf (some id) = ahead.length
  each_once : scheduler.Throughout continuation (·.namesOn device = scheduler.namesOn device) →
    (scheduler.turnsOn device continuation).length = (scheduler.namesOn device).length →
    (scheduler.turnsOn device continuation).Perm ((scheduler.namesOn device).map some)

section Runs

variable {scheduler : TimeSlicingScheduler} {device id : String} {operation : Operation}
  {rest continuation : List Operation}

theorem turnsOn_cons_of_rotates (turned : scheduler.rotates device operation = true) :
    scheduler.turnsOn device (operation :: rest) =
      ((scheduler.perform operation).lineOn device).active ::
        (scheduler.perform operation).turnsOn device rest :=
  if_pos turned

theorem turnsOn_cons_of_not (kept : scheduler.rotates device operation = false) :
    scheduler.turnsOn device (operation :: rest) =
      (scheduler.perform operation).turnsOn device rest :=
  if_neg (Bool.eq_false_iff.mp kept)

theorem Throughout.now {holds : TimeSlicingScheduler → Prop}
    (always : scheduler.Throughout continuation holds) : holds scheduler :=
  always [] List.nil_prefix

theorem Throughout.next {holds : TimeSlicingScheduler → Prop}
    (always : scheduler.Throughout (operation :: rest) holds) :
    (scheduler.perform operation).Throughout rest holds :=
  fun done before => always (operation :: done) (List.cons_prefix_cons.mpr ⟨rfl, before⟩)

theorem Sound.mem_everyone (sound : scheduler.Sound) :
    id ∈ (scheduler.lineOn device).everyone ↔ id ∈ scheduler.namesOn device :=
  (sound.everyone_perm device).mem_iff

theorem Sound.mem_queue (sound : scheduler.Sound) (waits : scheduler.Waits device id) :
    id ∈ (scheduler.lineOn device).queue := by
  rcases List.mem_append.mp (sound.mem_everyone.mpr waits.1) with queued | turn
  · exact queued
  · exact absurd (Option.mem_toList.mp turn) waits.2

theorem run_in_order (sound : scheduler.Sound) {waiting : List String}
    (before : waiting.Sublist (scheduler.lineOn device).queue)
    (always : scheduler.Throughout continuation fun later =>
      ∀ id ∈ waiting, later.Waits device id) :
    waiting.Sublist ((scheduler.run continuation).lineOn device).queue := by
  induction continuation generalizing scheduler with
  | nil => exact before
  | cons operation rest ih =>
      have after := sound.perform operation
      refine ih after ?_ always.next
      refine (step_line sound device operation).in_order (after.nodup_everyone device) before ?_
      exact fun id member => after.mem_queue (always.next.now id member)

theorem run_not_overtaken (sound : scheduler.Sound) {ahead : List String}
    (place : (ahead ++ [id]).IsPrefix (scheduler.lineOn device).queue)
    (always : scheduler.Throughout continuation (·.Waits device id)) :
    ∃ left, left.Sublist ahead ∧
      (left ++ [id]).IsPrefix ((scheduler.run continuation).lineOn device).queue := by
  induction continuation generalizing scheduler ahead with
  | nil => exact ⟨ahead, .refl ahead, place⟩
  | cons operation rest ih =>
      have after := sound.perform operation
      obtain ⟨lives, noTurn⟩ := always.next.now
      rcases (step_line sound device operation).move_up place (after.mem_everyone.mpr lives) with
        ⟨_, moved⟩ | ⟨_, _, turn⟩ | ⟨_, first, others, rfl, _, moved⟩
      · obtain ⟨left, among, nextPlace⟩ := ih after moved always.next
        exact ⟨left, among.trans List.filter_sublist, nextPlace⟩
      · exact absurd turn noTurn
      · obtain ⟨left, among, nextPlace⟩ := ih after moved always.next
        exact ⟨left, among.cons first, nextPlace⟩

/-- One operation more, seen from a place in the queue. -/
theorem turnsOn_cons_of_place (sound : scheduler.Sound) {ahead : List String}
    (place : (ahead ++ [id]).IsPrefix (scheduler.lineOn device).queue)
    (lives : id ∈ (scheduler.perform operation).namesOn device) :
    let next := scheduler.perform operation
    ((∀ rest, scheduler.turnsOn device (operation :: rest) = next.turnsOn device rest) ∧
      (ahead.filter (· ∈ next.namesOn device) ++ [id]).IsPrefix (next.lineOn device).queue) ∨
    (ahead = [] ∧ ∀ rest, ∃ later,
      scheduler.turnsOn device (operation :: rest) = some id :: later) ∨
    ∃ first others, ahead = first :: others ∧
      (∀ rest, scheduler.turnsOn device (operation :: rest) =
        some first :: next.turnsOn device rest) ∧
      (others ++ [id]).IsPrefix (next.lineOn device).queue := by
  intro next
  have after := sound.perform operation
  rcases (step_line sound device operation).move_up place (after.mem_everyone.mpr lives) with
    ⟨kept, moved⟩ | ⟨turned, none, turn⟩ | ⟨turned, first, others, shape, turn, moved⟩
  · simp only [after.mem_everyone] at moved
    exact .inl ⟨fun rest => turnsOn_cons_of_not kept, moved⟩
  · refine .inr (.inl ⟨none, fun rest => ⟨next.turnsOn device rest, ?_⟩⟩)
    rw [turnsOn_cons_of_rotates turned, turn]
  · refine .inr (.inr ⟨first, others, shape, fun rest => ?_, moved⟩)
    rw [turnsOn_cons_of_rotates turned, turn]

theorem run_served (sound : scheduler.Sound) {ahead : List String}
    (place : (ahead ++ [id]).IsPrefix (scheduler.lineOn device).queue)
    (always : scheduler.Throughout continuation (id ∈ ·.namesOn device))
    (enough : ahead.length < (scheduler.turnsOn device continuation).length) :
    (scheduler.turnsOn device continuation).idxOf (some id) ≤ ahead.length := by
  induction continuation generalizing scheduler ahead with
  | nil => cases enough
  | cons operation rest ih =>
      have after := sound.perform operation
      rcases turnsOn_cons_of_place sound place always.next.now with
        ⟨same, moved⟩ | ⟨rfl, turn⟩ | ⟨first, others, rfl, turn, moved⟩
      · -- Some of those ahead may have left, which only brings the turn nearer.
        have fewer := List.length_filter_le
          (· ∈ (scheduler.perform operation).namesOn device) ahead
        rw [same] at enough ⊢
        exact (ih after moved always.next (Nat.lt_of_le_of_lt fewer enough)).trans fewer
      · obtain ⟨later, turns⟩ := turn rest
        rw [turns, List.idxOf_cons_self]
        exact Nat.le_refl 0
      · rw [turn] at enough ⊢
        have later := ih after moved always.next (Nat.lt_of_succ_lt_succ enough)
        by_cases own : first = id
        · rw [own, List.idxOf_cons_self]
          exact Nat.zero_le _
        · rw [List.idxOf_cons_ne _ (by simpa using own)]
          exact Nat.succ_le_succ later

theorem run_served_exactly (sound : scheduler.Sound) {ahead : List String}
    (place : (ahead ++ [id]).IsPrefix (scheduler.lineOn device).queue)
    (always : scheduler.Throughout continuation (id ∈ ·.namesOn device))
    (stay : ∀ done, done.IsPrefix continuation → ∀ other ∈ ahead,
      other ∈ (scheduler.run done).namesOn device ∨ some other ∈ scheduler.turnsOn device done)
    (enough : ahead.length < (scheduler.turnsOn device continuation).length) :
    (scheduler.turnsOn device continuation).idxOf (some id) = ahead.length := by
  induction continuation generalizing scheduler ahead with
  | nil => cases enough
  | cons operation rest ih =>
      have after := sound.perform operation
      have distinct : (ahead ++ [id]).Nodup :=
        (List.nodup_append.mp (sound.nodup_everyone device)).1.sublist place.sublist
      have stayNext (done : List Operation) (before : done.IsPrefix rest) :=
        stay (operation :: done) (List.cons_prefix_cons.mpr ⟨rfl, before⟩)
      rcases turnsOn_cons_of_place sound place always.next.now with
        ⟨same, moved⟩ | ⟨rfl, turn⟩ | ⟨first, others, rfl, turn, moved⟩
      · simp only [same] at enough stayNext ⊢
        have all : ahead.filter (· ∈ (scheduler.perform operation).namesOn device) = ahead := by
          refine List.filter_eq_self.mpr fun other member => decide_eq_true ?_
          rcases stayNext [] List.nil_prefix other member with still | had
          · exact still
          · cases had
        rw [all] at moved
        exact ih after moved always.next stayNext enough
      · obtain ⟨later, turns⟩ := turn rest
        rw [turns, List.idxOf_cons_self]
        rfl
      · simp only [turn] at enough stayNext ⊢
        obtain ⟨apart, _⟩ := List.nodup_cons.mp distinct
        have own : first ≠ id := fun same => apart (by simp [same])
        -- The first has had the turn, and no longer counts as ahead.
        have stayOthers (done : List Operation) (before : done.IsPrefix rest) (other : String)
            (member : other ∈ others) :
            other ∈ ((scheduler.perform operation).run done).namesOn device ∨
              some other ∈ (scheduler.perform operation).turnsOn device done := by
          rcases stayNext done before other (List.mem_cons_of_mem first member) with still | had
          · exact .inl still
          · have differs : some other ≠ some first := fun same =>
              apart (List.mem_append_left [id] (Option.some.inj same ▸ member))
            exact .inr ((List.mem_cons.mp had).resolve_left differs)
        rw [List.idxOf_cons_ne _ (by simpa using own),
          ih after moved always.next stayOthers (Nat.lt_of_succ_lt_succ enough)]
        rfl

/-- Where nobody comes and nobody goes, the turns are given out in the order of the line. -/
theorem turnsOn_eq_take (sound : scheduler.Sound)
    (always : scheduler.Throughout continuation (·.namesOn device = scheduler.namesOn device))
    (few : (scheduler.turnsOn device continuation).length ≤
      (scheduler.lineOn device).everyone.length) :
    scheduler.turnsOn device continuation =
      ((scheduler.lineOn device).everyone.take
        (scheduler.turnsOn device continuation).length).map some := by
  induction continuation generalizing scheduler with
  | nil => rfl
  | cons operation rest ih =>
      have after := sound.perform operation
      have alwaysNext : (scheduler.perform operation).Throughout rest
          (·.namesOn device = (scheduler.perform operation).namesOn device) :=
        fun done before => (always.next done before).trans always.next.now.symm
      have next := (step_line sound device operation).closed <| by
        rw [(after.everyone_perm device).length_eq, (sound.everyone_perm device).length_eq]
        exact congrArg List.length always.next.now
      cases turned : scheduler.rotates device operation with
      | false =>
          rw [turned, if_neg Bool.false_ne_true] at next
          rw [turnsOn_cons_of_not turned, ← next] at few ⊢
          exact ih after alwaysNext few
      | true =>
          rw [turned, if_pos rfl] at next
          rw [turnsOn_cons_of_rotates turned] at few ⊢
          cases order : (scheduler.lineOn device).everyone with
          | nil => simp [order] at few
          | cons first others =>
              rw [Line.pass_eq_of_everyone order] at next
              rw [order] at few
              have within := Nat.le_of_succ_le_succ few
              have later := ih after alwaysNext (by
                rw [next]
                simpa [Line.everyone] using Nat.le_succ_of_le within)
              -- The first goes to the end of the line, and does not come up again.
              rw [next] at later ⊢
              rw [List.length_cons, List.take_succ_cons, List.map_cons,
                ← List.take_append_of_le_length within]
              exact congrArg (some first :: ·) later

end Runs

/-- From every state that a scheduler reaches and on every device, however it goes on. -/
theorem run_first_come_first_served (config : SchedulerConfig) (policy : AllocationPolicy)
    (operations : List Operation) (device : String) (continuation : List Operation) :
    (({ config, policy } : TimeSlicingScheduler).run operations).FirstComeFirstServed device
      continuation := by
  have sound := (sound_new config policy).run operations
  refine ⟨?_, ?_, ?_, ?_, ?_⟩
  · exact fun waiting before always => run_in_order sound before always
  · exact fun ahead id place always => run_not_overtaken sound place always
  · exact fun ahead id place always enough => run_served sound place always enough
  · exact fun ahead id place always stay enough => run_served_exactly sound place always stay enough
  · intro always enough
    have names := sound.everyone_perm device
    have size := enough.trans names.length_eq.symm
    rw [turnsOn_eq_take sound always size.le, size, List.take_length]
    exact names.map some

/-- Three workloads take turns, and the second leaves before it has had its own. -/
example :
    let join (id : String) : Operation := .allocate "card0"
      { id
        workload := { pod := id, space := "default", container := "main" }
        fraction := 0.5
        memoryMib := 1024
        isolation := .timeSlice
        sharing := true } ⟨⟨0, 0⟩, ⟨0⟩⟩
    let update (milliseconds : Int) : Operation := .update "card0" ⟨milliseconds * 1000000⟩
    ({ config := {}, policy := {} } : TimeSlicingScheduler).turnsOn "card0"
      [join "a", join "b", join "c", update 100, .release "b", update 150, update 200, update 300] =
        [some "a", some "c", some "a"] := by
  decide +kernel

end TimeSlicingScheduler

end GpuSharing
