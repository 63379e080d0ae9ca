import GpuSharing.Proofs.Pruning
import GpuSharing.Proofs.Turns.Rotation

/-!
# The line for the turn

On one device, the workloads stand in line for the turn. All that an operation can do to the
line is to let some of its members leave, to add one at the end, or to pass the turn on.
-/

set_option autoImplicit false

namespace GpuSharing

/-- Who has the turn, and who waits for it. -/
structure Line where
  active : Option String
  queue : List String

namespace Line

/-- Everyone in line, in the order of their next turns. -/
def everyone (line : Line) : List String :=
  line.queue ++ line.active.toList

def keep (kept : String → Bool) (line : Line) : Line :=
  ⟨line.active.filter kept, line.queue.filter kept⟩

def join (id : String) (line : Line) : Line :=
  ⟨line.active, line.queue ++ [id]⟩

def pass (line : Line) : Line :=
  ⟨line.everyone.head?, line.everyone.drop 1⟩

/-- What can happen to a line, and whether it passes the turn on. -/
inductive Step (line : Line) : Bool → Line → Prop
  | leave (kept : String → Bool) : line.Step false (line.keep kept)
  | join (id : String) (new : id ∉ line.everyone) : line.Step false (line.join id)
  | pass : line.Step true line.pass

theorem everyone_keep (kept : String → Bool) (line : Line) :
    (line.keep kept).everyone = line.everyone.filter kept := by
  rw [everyone, everyone, List.filter_append, keep, Option.toList_filter]

theorem mem_everyone_join {line : Line} {id other : String} :
    other ∈ (line.join id).everyone ↔ other ∈ line.everyone ∨ other = id := by
  simp only [everyone, join, List.mem_append, List.mem_singleton]
  tauto

theorem keep_eq_self {kept : String → Bool} {line : Line}
    (all : ∀ id ∈ line.everyone, kept id = true) : line.keep kept = line := by
  have queue : line.queue.filter kept = line.queue :=
    List.filter_eq_self.mpr fun id waits => all id (List.mem_append_left _ waits)
  have active : line.active.filter kept = line.active.filter fun _ => true :=
    filter_holder_congr fun id turn => all id (List.mem_append_right _ (by simp [turn]))
  rw [keep, queue, active, filter_holder_all]

theorem Step.stay (line : Line) : line.Step false line := by
  have kept : line.Step false (line.keep fun _ => true) := .leave _
  rwa [keep_eq_self fun _ _ => rfl] at kept

/-- The turn goes to the first in line, who is then the last to have it again. -/
theorem pass_eq_of_everyone {line : Line} {first : String} {rest : List String}
    (order : line.everyone = first :: rest) : line.pass = ⟨some first, rest⟩ := by
  rw [pass, order]
  rfl

theorem pass_of_queue {line : Line} {first : String} {rest : List String}
    (order : line.queue = first :: rest) :
    line.pass = ⟨some first, rest ++ line.active.toList⟩ :=
  pass_eq_of_everyone (by rw [everyone, order, List.cons_append])

section Waiting

variable {line next : Line} {turned : Bool}

/-- Those who all go on waiting do so in the same order. -/
theorem Step.in_order (step : line.Step turned next) (once : next.everyone.Nodup)
    {waiting : List String} (before : waiting.Sublist line.queue)
    (after : ∀ id ∈ waiting, id ∈ next.queue) : waiting.Sublist next.queue := by
  cases step with
  | leave kept =>
      have all : waiting.filter kept = waiting :=
        List.filter_eq_self.mpr fun id member => (List.mem_filter.mp (after id member)).2
      exact all ▸ before.filter kept
  | join id new => exact before.trans (List.sublist_append_left ..)
  | pass =>
      cases order : line.queue with
      | nil =>
          rw [order, List.sublist_nil] at before
          exact before ▸ List.nil_sublist _
      | cons first rest =>
          rw [pass_of_queue order] at once after ⊢
          rw [order] at before
          rcases List.sublist_cons_iff.mp before with behind | ⟨others, rfl, _⟩
          · exact behind.trans (List.sublist_append_left ..)
          · -- Whoever gets the turn does not wait any longer.
            have twice := after first List.mem_cons_self
            exact absurd rfl ((List.nodup_append.mp once).2.2 first twice first (by simp))

/-- Whoever waits moves up by one when the turn passes on, up to the turn itself, and
otherwise by as many as have left from before. -/
theorem Step.move_up (step : line.Step turned next) {front : List String} {id : String}
    (place : front ++ [id] <+: line.queue) (stays : id ∈ next.everyone) :
    (turned = false ∧ front.filter (· ∈ next.everyone) ++ [id] <+: next.queue) ∨
    (turned = true ∧ front = [] ∧ next.active = some id) ∨
    (turned = true ∧ ∃ first rest, front = first :: rest ∧ next.active = some first ∧
      rest ++ [id] <+: next.queue) := by
  have present (other : String) (ahead : other ∈ front) : other ∈ line.everyone :=
    List.mem_append_left _ (place.subset (List.mem_append_left _ ahead))
  cases step with
  | leave kept =>
      refine .inl ⟨rfl, ?_⟩
      have same : front.filter (· ∈ (line.keep kept).everyone) = front.filter kept :=
        List.filter_congr fun other ahead => by
          simp [everyone_keep, present other ahead]
      rw [everyone_keep, List.mem_filter] at stays
      have kept := place.filter kept
      rwa [List.filter_append, List.filter_singleton, stays.2, ← same] at kept
  | join other new =>
      refine .inl ⟨rfl, ?_⟩
      have same : front.filter (· ∈ (line.join other).everyone) = front :=
        List.filter_eq_self.mpr fun ahead member =>
          decide_eq_true (mem_everyone_join.mpr (.inl (present ahead member)))
      rw [same]
      exact place.trans (List.prefix_append ..)
  | pass =>
      refine .inr ?_
      obtain ⟨behind, order⟩ := place
      cases front with
      | nil =>
          have first : line.queue = id :: behind := order.symm
          rw [pass_of_queue first]
          exact .inl ⟨rfl, rfl, rfl⟩
      | cons first rest =>
          have order : line.queue = first :: (rest ++ [id] ++ behind) := order.symm
          rw [pass_of_queue order, List.append_assoc]
          exact .inr ⟨rfl, first, rest, rfl, rfl, List.prefix_append ..⟩

/-- Where nobody comes and nobody goes, only the turn passes on. -/
theorem Step.closed (step : line.Step turned next)
    (same : next.everyone.length = line.everyone.length) :
    next = if turned then line.pass else line := by
  cases step with
  | leave kept =>
      rw [everyone_keep, List.length_filter_eq_length_iff] at same
      exact keep_eq_self same
  | join id new => simp [everyone, Line.join] at same
  | pass => rfl

end Waiting

end Line

namespace SlicedDevice

def line (device : SlicedDevice) : Line :=
  ⟨device.active, device.queue⟩

theorem line_passOn (slice : Duration) (now : Instant) (device : SlicedDevice) :
    (device.passOn slice now).line =
      if device.isDue slice now then device.line.pass else device.line := by
  unfold passOn
  split
  · rfl
  · rfl

theorem InTurn.everyone_perm {device : SlicedDevice} (inTurn : device.InTurn) :
    device.line.everyone.Perm (device.workloads.map (·.id)) :=
  List.perm_append_comm.trans inTurn.everyone

end SlicedDevice

namespace TimeSlicingScheduler

/-- The line on a device; nobody stands in line where the device is not known. -/
def lineOn (scheduler : TimeSlicingScheduler) (device : String) : Line :=
  ((scheduler.ledger.devices.get? device).map (·.line)).getD ⟨none, []⟩

variable {scheduler : TimeSlicingScheduler}

theorem Sound.everyone_perm (sound : scheduler.Sound) (device : String) :
    (scheduler.lineOn device).everyone.Perm
      ((scheduler.ledger.liveOn device).map (·.id)) := by
  unfold lineOn Ledger.liveOn
  cases known : scheduler.ledger.devices.get? device with
  | none => exact .refl []
  | some books => exact (sound.inTurn device books known).everyone_perm

theorem Sound.nodup_everyone (sound : scheduler.Sound) (device : String) :
    (scheduler.lineOn device).everyone.Nodup :=
  (sound.everyone_perm device).nodup_iff.mpr (sound.coherent.distinct device)

theorem lineOn_insert (known : SlicedDevice) (owners : Keyed String) (place device : String) :
    ({ scheduler with ledger := ⟨scheduler.ledger.devices.insert place known, owners⟩ } :
      TimeSlicingScheduler).lineOn device =
        if device = place then known.line else scheduler.lineOn device := by
  unfold lineOn
  simp only [Keyed.get?_insert]
  by_cases here : device = place
  · simp [here]
  · simp [here]

theorem line_deviceOrNew (device : String) (now : Instant) :
    (scheduler.deviceOrNew device now).line = scheduler.lineOn device := by
  unfold deviceOrNew lineOn
  cases scheduler.ledger.devices.get? device with
  | none => rfl
  | some known => rfl

theorem lineOn_register (place : String) (reported : UInt64) (now : Instant) (device : String) :
    (scheduler.register place reported now).lineOn device = scheduler.lineOn device := by
  refine (lineOn_insert _ _ place device).trans ?_
  by_cases here : device = place
  · rw [if_pos here, here, lineOn]
    cases scheduler.ledger.devices.get? place with
    | none => rfl
    | some known => rfl
  · rw [if_neg here]

theorem lineOn_congr {next : TimeSlicingScheduler} {device : String}
    (same : next.ledger.devices.get? device = scheduler.ledger.devices.get? device) :
    next.lineOn device = scheduler.lineOn device := by
  rw [lineOn, same, lineOn]

theorem step_of_prune {next : TimeSlicingScheduler} {kept : String → Bool}
    (pruned : next.ledger = scheduler.ledger.prune kept) (device : String) :
    (scheduler.lineOn device).Step false (next.lineOn device) := by
  unfold lineOn
  rw [pruned, Ledger.get?_prune]
  cases scheduler.ledger.devices.get? device with
  | none => exact .stay _
  | some known =>
      have left : known.line.Step false (known.line.keep kept) := .leave kept
      exact left

theorem step_of_passOn {next : TimeSlicingScheduler} {device : String} {now : Instant}
    (passed : next.ledger.devices.get? device = (scheduler.ledger.devices.get? device).map
      (·.passOn scheduler.config.timeSlice now)) :
    (scheduler.lineOn device).Step (scheduler.isDue now device) (next.lineOn device) := by
  unfold lineOn isDue
  rw [passed]
  cases scheduler.ledger.devices.get? device with
  | none => exact .stay _
  | some known =>
      simp only [Option.map_some, Option.getD_some, Option.any_some, SlicedDevice.line_passOn]
      cases known.isDue scheduler.config.timeSlice now with
      | true => exact .pass
      | false => exact .stay _

/-- Whether an operation rotates a device, as far as it reports. -/
def rotates (scheduler : TimeSlicingScheduler) (device : String) : Operation → Bool
  | .update place now => decide (place = device) && (scheduler.report? now place).isSome
  | .updateAll now => (scheduler.updateAll now).1.any (·.1 = device)
  | .register .. | .allocate .. | .release _ | .expire _ => false

theorem step_line (sound : scheduler.Sound) (device : String) (operation : Operation) :
    (scheduler.lineOn device).Step (scheduler.rotates device operation)
      ((scheduler.perform operation).lineOn device) := by
  cases operation with
  | register place reported now =>
      rw [perform, lineOn_register]
      exact .stay _
  | allocate place request clock =>
      rcases scheduler.allocate_cases place request clock with
        ⟨_, refused⟩ | ⟨share, checked, granted⟩
      · rw [perform, refused]
        exact .stay _
      · rw [perform, granted]
        refine cast (congrArg _ (lineOn_insert _ _ place device).symm) ?_
        by_cases here : device = place
        · subst here
          have unused := ((check_eq_ok clock.monotonic).mp checked).2.1
          have new : request.id ∉ (scheduler.lineOn device).everyone := fun member =>
            sound.coherent.fresh unused device ((sound.everyone_perm device).mem_iff.mp member)
          rw [← line_deviceOrNew device clock.monotonic] at new ⊢
          rw [if_pos rfl]
          exact .join request.id new
        · rw [if_neg here]
          exact .stay _
  | release id => exact step_of_prune (sound.settled.release_eq_prune id) device
  | expire now => exact step_of_prune (sound.settled.expire_eq_prune now) device
  | update place now =>
      rw [rotates, isSome_report?]
      by_cases here : place = device
      · subst here
        have passed := (scheduler.get?_update now place place).trans (if_pos rfl)
        rw [decide_eq_true rfl, Bool.true_and]
        exact step_of_passOn passed
      · have kept := (scheduler.get?_update now place device).trans (if_neg (Ne.symm here))
        rw [decide_eq_false here, Bool.false_and, perform, lineOn_congr kept]
        exact .stay _
  | updateAll now =>
      rw [rotates, any_updateAll]
      exact step_of_passOn (scheduler.get?_updateAll now device)

end TimeSlicingScheduler

end GpuSharing
