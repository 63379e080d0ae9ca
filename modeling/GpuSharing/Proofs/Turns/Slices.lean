import GpuSharing.Proofs.Turns.Line

/-!
# Time slices

The clock of a device is set when it becomes known and at each of its rotations, and by nothing
else. A rotation waits until a slice is over since then, whatever instants the operations give,
so the rotations of a device are a slice apart. A turn begins and ends with a rotation, unless
whoever has it goes away.
-/

set_option autoImplicit false

namespace GpuSharing

theorem Instant.le_of_advance_le {span : Duration} (positive : .zero < span)
    {earlier later : Instant} (apart : earlier.advance span ≤ later) : earlier ≤ later := by
  have positive : 0 < span.nanos := positive
  change earlier.nanos + span.nanos ≤ later.nanos at apart
  change earlier.nanos ≤ later.nanos
  omega

namespace SlicedDevice

theorem advance_le_of_isDue {slice : Duration} (positive : .zero < slice) {now : Instant}
    {device : SlicedDevice} (due : device.isDue slice now) :
    device.lastSwitch.advance slice ≤ now := by
  have elapsed : ¬ now.since device.lastSwitch < slice := by simpa [isDue] using due
  have enough : slice.nanos ≤ max 0 (now.nanos - device.lastSwitch.nanos) := Int.not_lt.mp elapsed
  have positive : 0 < slice.nanos := positive
  change device.lastSwitch.nanos + slice.nanos ≤ now.nanos
  omega

end SlicedDevice

/-- Each of these instants is a slice after all those before it. -/
def Spaced (slice : Duration) (instants : List Instant) : Prop :=
  instants.Pairwise fun earlier later => earlier.advance slice ≤ later

theorem Spaced.cons {slice : Duration} (positive : .zero < slice) {last now : Instant}
    (apart : last.advance slice ≤ now) {rest : List Instant} (spaced : Spaced slice (now :: rest)) :
    Spaced slice (last :: now :: rest) := by
  refine List.pairwise_cons.mpr ⟨fun later member => ?_, spaced⟩
  rcases List.mem_cons.mp member with rfl | after
  · exact apart
  · have further := (List.pairwise_cons.mp spaced).1 later after
    have positive : 0 < slice.nanos := positive
    change last.nanos + slice.nanos ≤ later.nanos
    change last.nanos + slice.nanos ≤ now.nanos at apart
    change now.nanos + slice.nanos ≤ later.nanos at further
    omega

/-- What one operation does to the clock of a device, which it reads as not set while the device
is not known: the instant of an addition, that of a rotation, and the clock afterwards. -/
inductive ClockStep (slice : Duration) :
    (before added rotated after : Option Instant) → Prop
  | keep (clock : Option Instant) : ClockStep slice clock none none clock
  | add (now : Instant) : ClockStep slice none (some now) none (some now)
  | rotate (last now : Instant) (apart : last.advance slice ≤ now) :
      ClockStep slice (some last) none (some now) (some now)

namespace ClockStep

variable {slice : Duration} {last : Instant} {before added rotated after : Option Instant}

theorem unchanged (same : after = before) : ClockStep slice before none none after := by
  rw [same]
  exact .keep before

theorem of_known (step : ClockStep slice (some last) added rotated after) :
    added = none ∧ (rotated = none ∧ after = some last ∨
      ∃ now, last.advance slice ≤ now ∧ rotated = some now ∧ after = some now) := by
  cases step with
  | keep => exact ⟨rfl, .inl ⟨rfl, rfl⟩⟩
  | rotate _ now apart => exact ⟨rfl, .inr ⟨now, apart, rfl, rfl⟩⟩

theorem of_unknown (step : ClockStep slice none added rotated after) :
    rotated = none ∧ (added = none ∧ after = none ∨
      ∃ now, added = some now ∧ after = some now) := by
  cases step with
  | keep => exact ⟨rfl, .inl ⟨rfl, rfl⟩⟩
  | add now => exact ⟨rfl, .inr ⟨now, rfl, rfl⟩⟩

end ClockStep

namespace TimeSlicingScheduler

/-- The instant of the last rotation of a device, or of its addition before the first one. -/
def lastSwitch? (scheduler : TimeSlicingScheduler) (device : String) : Option Instant :=
  (scheduler.ledger.devices.get? device).map (·.lastSwitch)

/-- The instant at which an operation rotates a device, if it does. -/
def rotation? (scheduler : TimeSlicingScheduler) (device : String) :
    Operation → Option Instant
  | .update place now =>
      if scheduler.rotates device (.update place now) then some now else none
  | .updateAll now => if scheduler.rotates device (.updateAll now) then some now else none
  | .register .. | .allocate .. | .release _ | .expire _ => none

/-- The instant at which an operation makes a device known, if it does. -/
def addition? (scheduler : TimeSlicingScheduler) (device : String)
    (operation : Operation) : Option Instant :=
  if scheduler.ledger.containsDevice device then none
  else match operation with
    | .register place _ now => if place = device then some now else none
    | .allocate place request clock =>
        if place = device ∧ (scheduler.allocate place request clock).1.isOk then
          some clock.monotonic
        else none
    | .release _ | .expire _ | .update .. | .updateAll _ => none

/-- What can be observed of the operations of a run, one after another. -/
def observed {α : Type} (observe : TimeSlicingScheduler → Operation → Option α)
    (scheduler : TimeSlicingScheduler) : List Operation → List α
  | [] => []
  | operation :: rest =>
      (observe scheduler operation).toList ++ observed observe (scheduler.perform operation) rest

def rotationsOn (scheduler : TimeSlicingScheduler) (device : String) :
    List Operation → List Instant :=
  observed (·.rotation? device) scheduler

def additionsOn (scheduler : TimeSlicingScheduler) (device : String) :
    List Operation → List Instant :=
  observed (·.addition? device) scheduler

section Clocks

variable {scheduler : TimeSlicingScheduler} {device : String}

theorem containsDevice_eq : scheduler.ledger.containsDevice device =
    (scheduler.lastSwitch? device).isSome := by
  rw [lastSwitch?, Option.isSome_map]
  rfl

theorem lastSwitch?_prune {next : TimeSlicingScheduler} {kept : String → Bool}
    (pruned : next.ledger = scheduler.ledger.prune kept) (device : String) :
    next.lastSwitch? device = scheduler.lastSwitch? device := by
  unfold lastSwitch?
  rw [pruned, Ledger.get?_prune, Option.map_map]
  rfl

/-- Books that are entered for a device keep its clock, or set it if the device is new. -/
theorem lastSwitch?_insert (known : SlicedDevice) (owners : Keyed String)
    (place device : String) :
    ({ scheduler with ledger := ⟨scheduler.ledger.devices.insert place known, owners⟩ } :
      TimeSlicingScheduler).lastSwitch? device =
        if device = place then some known.lastSwitch else scheduler.lastSwitch? device := by
  unfold lastSwitch?
  simp only [Keyed.get?_insert]
  split
  · rfl
  · rfl

theorem lastSwitch_deviceOrNew (device : String) (now : Instant) :
    some (scheduler.deviceOrNew device now).lastSwitch =
      (scheduler.lastSwitch? device).or (some now) := by
  unfold deviceOrNew lastSwitch?
  cases scheduler.ledger.devices.get? device with
  | none => rfl
  | some known => rfl

theorem lastSwitch?_register (place : String) (reported : UInt64) (now : Instant)
    (device : String) :
    (scheduler.register place reported now).lastSwitch? device =
      if device = place then (scheduler.lastSwitch? device).or (some now)
      else scheduler.lastSwitch? device := by
  refine (lastSwitch?_insert _ _ place device).trans ?_
  by_cases here : device = place
  · rw [if_pos here, if_pos here, here, lastSwitch?]
    cases scheduler.ledger.devices.get? place with
    | none => rfl
    | some known => rfl
  · rw [if_neg here, if_neg here]

/-- An update on a device that is due is a rotation at its instant, and any other leaves the
clock alone. -/
theorem clockStep_passOn {next : TimeSlicingScheduler} (positive : .zero < scheduler.config.timeSlice)
    {now : Instant} (passed : next.ledger.devices.get? device =
      (scheduler.ledger.devices.get? device).map (·.passOn scheduler.config.timeSlice now)) :
    ClockStep scheduler.config.timeSlice (scheduler.lastSwitch? device) none
      (if scheduler.isDue now device then some now else none) (next.lastSwitch? device) := by
  unfold lastSwitch? isDue
  rw [passed]
  cases scheduler.ledger.devices.get? device with
  | none => exact .keep none
  | some known =>
      simp only [Option.map_some, Option.any_some]
      by_cases due : known.isDue scheduler.config.timeSlice now = true
      · rw [if_pos due, SlicedDevice.passOn, if_pos due]
        exact .rotate _ now (SlicedDevice.advance_le_of_isDue positive due)
      · rw [if_neg due, SlicedDevice.passOn, if_neg due]
        exact .keep _

/-- Where a device is entered at an instant, it is added or was known before. -/
theorem clockStep_enter {next : TimeSlicingScheduler} {now : Instant}
    (entered : next.lastSwitch? device = (scheduler.lastSwitch? device).or (some now)) :
    ClockStep scheduler.config.timeSlice (scheduler.lastSwitch? device)
      (if scheduler.ledger.containsDevice device then none else some now) none
      (next.lastSwitch? device) := by
  rw [entered, containsDevice_eq]
  cases scheduler.lastSwitch? device with
  | none => exact .add now
  | some last => exact .keep (some last)

theorem clockStep_allocate (place : String) (request : AllocationRequest) (clock : Clock) :
    ClockStep scheduler.config.timeSlice (scheduler.lastSwitch? device)
      (scheduler.addition? device (.allocate place request clock)) none
      ((scheduler.allocate place request clock).2.lastSwitch? device) := by
  rw [addition?]
  rcases scheduler.allocate_cases place request clock with
    ⟨_, refused⟩ | ⟨share, checked, granted⟩
  · rw [refused]
    simp only [Except.isOk, Except.toBool, Bool.false_eq_true, and_false, if_false, ite_self]
    exact .keep _
  · rw [granted]
    have after := scheduler.lastSwitch?_insert
      ((scheduler.deviceOrNew place clock.monotonic).enqueue
        (.ofRequest place request share .pending clock.wall))
      (scheduler.ledger.owners.insert request.id place) place device
    by_cases here : place = device
    · subst here
      simp only [Except.isOk, Except.toBool, and_self, if_true]
      exact clockStep_enter
        (after.trans ((if_pos rfl).trans (scheduler.lastSwitch_deviceOrNew place clock.monotonic)))
    · simp only [here, false_and, if_false, ite_self]
      have same := after.trans (if_neg (Ne.symm here))
      exact .unchanged same

theorem clockStep_perform (sound : scheduler.Sound)
    (positive : .zero < scheduler.config.timeSlice) (device : String) (operation : Operation) :
    ClockStep scheduler.config.timeSlice (scheduler.lastSwitch? device)
      (scheduler.addition? device operation) (scheduler.rotation? device operation)
      ((scheduler.perform operation).lastSwitch? device) := by
  cases operation with
  | register place reported now =>
      have after := scheduler.lastSwitch?_register place reported now device
      by_cases here : device = place
      · rw [if_pos here] at after
        simp only [addition?, if_pos here.symm]
        exact clockStep_enter after
      · rw [if_neg here] at after
        simp only [addition?, if_neg (Ne.symm here), ite_self]
        exact .unchanged after
  | allocate place request clock => exact clockStep_allocate place request clock
  | release id =>
      have same : (scheduler.release id).2.lastSwitch? device = scheduler.lastSwitch? device :=
        lastSwitch?_prune (sound.settled.release_eq_prune id) device
      simp only [addition?, ite_self]
      exact .unchanged same
  | expire now =>
      have same : (scheduler.expire now).2.lastSwitch? device = scheduler.lastSwitch? device :=
        lastSwitch?_prune (sound.settled.expire_eq_prune now) device
      simp only [addition?, ite_self]
      exact .unchanged same
  | update place now =>
      simp only [addition?, ite_self, rotation?, rotates, isSome_report?]
      by_cases here : place = device
      · subst here
        rw [decide_eq_true rfl, Bool.true_and]
        exact clockStep_passOn positive
          ((scheduler.get?_update now place place).trans (if_pos rfl))
      · have kept := (scheduler.get?_update now place device).trans (if_neg (Ne.symm here))
        have same : (scheduler.update place now).2.lastSwitch? device =
            scheduler.lastSwitch? device := by rw [lastSwitch?, kept, lastSwitch?]
        rw [decide_eq_false here, Bool.false_and]
        exact .unchanged same
  | updateAll now =>
      simp only [addition?, ite_self, rotation?, rotates, any_updateAll]
      exact clockStep_passOn positive (scheduler.get?_updateAll now device)

theorem config_perform (operation : Operation) :
    (scheduler.perform operation).config = scheduler.config := by
  cases operation with
  | register place reported now => rfl
  | allocate place request clock => exact scheduler.config_allocate place request clock
  | release id => rfl
  | expire now => rfl
  | update place now => exact scheduler.config_update place now
  | updateAll now => exact scheduler.config_updateAll now

/-- From then on, a device that is known is not added, its rotations are a slice apart, and its
clock shows the last of them. -/
theorem spaced_of_known (sound : scheduler.Sound) (positive : .zero < scheduler.config.timeSlice)
    {last : Instant} (known : scheduler.lastSwitch? device = some last)
    (operations : List Operation) :
    scheduler.additionsOn device operations = [] ∧
      Spaced scheduler.config.timeSlice (last :: scheduler.rotationsOn device operations) ∧
      (scheduler.run operations).lastSwitch? device =
        (last :: scheduler.rotationsOn device operations).getLast? := by
  induction operations generalizing scheduler last with
  | nil => exact ⟨rfl, List.pairwise_singleton .., known⟩
  | cons operation rest ih =>
      have later {now : Instant}
          (set : (scheduler.perform operation).lastSwitch? device = some now) :=
        ih (sound.perform operation) (by rwa [config_perform]) set
      have step := clockStep_perform sound positive device operation
      rw [config_perform] at later
      rw [known] at step
      unfold additionsOn rotationsOn at later ⊢
      obtain ⟨unadded, ⟨kept, clock⟩ | ⟨now, apart, rotated, clock⟩⟩ := step.of_known
      · rw [observed, observed, unadded, kept]
        exact later clock
      · rw [observed, observed, unadded, rotated]
        obtain ⟨none, spaced, shown⟩ := later clock
        exact ⟨none, spaced.cons positive apart, shown⟩

/-- A device that is not known is added once, if ever, and it does not rotate before that. -/
theorem spaced_of_unknown (sound : scheduler.Sound) (positive : .zero < scheduler.config.timeSlice)
    (unknown : scheduler.lastSwitch? device = none) (operations : List Operation) :
    (scheduler.additionsOn device operations = [] ∧ scheduler.rotationsOn device operations = [] ∧
        (scheduler.run operations).lastSwitch? device = none) ∨
      ∃ added, scheduler.additionsOn device operations = [added] ∧
        Spaced scheduler.config.timeSlice (added :: scheduler.rotationsOn device operations) ∧
        (scheduler.run operations).lastSwitch? device =
          (added :: scheduler.rotationsOn device operations).getLast? := by
  induction operations generalizing scheduler with
  | nil => exact .inl ⟨rfl, rfl, unknown⟩
  | cons operation rest ih =>
      have next := sound.perform operation
      have positiveNext : .zero < (scheduler.perform operation).config.timeSlice := by
        rwa [config_perform]
      have stillUnknown := ih next positiveNext
      have known {now : Instant}
          (set : (scheduler.perform operation).lastSwitch? device = some now) :=
        spaced_of_known next positiveNext set rest
      have step := clockStep_perform sound positive device operation
      rw [config_perform] at stillUnknown known
      rw [unknown] at step
      unfold additionsOn rotationsOn at stillUnknown known ⊢
      obtain ⟨unrotated, ⟨unadded, clock⟩ | ⟨now, added, clock⟩⟩ := step.of_unknown
      · rw [observed, observed, unadded, unrotated]
        exact stillUnknown clock
      · rw [observed, observed, added, unrotated]
        obtain ⟨none, further⟩ := known clock
        exact .inr ⟨now, congrArg (now :: ·) none, further⟩

theorem lastSwitch?_run (sound : scheduler.Sound) (positive : .zero < scheduler.config.timeSlice)
    {last : Instant} (known : scheduler.lastSwitch? device = some last)
    (operations : List Operation) :
    ∃ later, (scheduler.run operations).lastSwitch? device = some later ∧ last ≤ later := by
  obtain ⟨_, spaced, shown⟩ := spaced_of_known sound positive known operations
  rw [shown]
  refine ⟨_, List.getLast?_eq_some_getLast (List.cons_ne_nil _ _), ?_⟩
  rcases List.mem_cons.mp (List.getLast_mem (List.cons_ne_nil last _)) with same | rotated
  · exact le_of_eq_of_le same.symm (Int.le_refl _)
  · exact Instant.le_of_advance_le positive ((List.pairwise_cons.mp spaced).1 _ rotated)

end Clocks

section Turns

variable {scheduler : TimeSlicingScheduler} {device id : String} {operation : Operation}

/-- A workload of the device goes away by its own release, or because it has expired. -/
def Departs (scheduler : TimeSlicingScheduler) (device id : String) : Operation → Prop
  | .release released => released = id
  | .expire now => ∃ live ∈ scheduler.ledger.liveOn device, live.id = id ∧ live.isExpiredAt now
  | .register .. | .allocate .. | .update .. | .updateAll _ => False

theorem departs_of_gone (sound : scheduler.Sound)
    (lived : id ∈ (scheduler.ledger.liveOn device).map (·.id))
    (gone : id ∉ ((scheduler.perform operation).ledger.liveOn device).map (·.id)) :
    scheduler.Departs device id operation := by
  cases operation with
  | register place reported now =>
      rw [perform, liveOn_register] at gone
      exact gone lived
  | allocate place request clock =>
      rw [perform] at gone
      rcases granted : scheduler.allocate place request clock with ⟨failure | workload, next⟩
      · rw [granted, allocate_eq_error granted] at gone
        exact gone lived
      · rw [granted, (allocate_eq_ok granted).2.liveOn_eq] at gone
        split at gone
        · rw [List.map_append] at gone
          exact gone (List.mem_append_left _ lived)
        · exact gone lived
  | release released =>
      obtain ⟨live, held, rfl⟩ := List.mem_map.mp lived
      by_contra other
      refine gone (List.mem_map_of_mem ?_)
      change live ∈ (scheduler.ledger.release released).2.liveOn device
      rw [Ledger.liveOn_release sound.coherent]
      exact List.mem_filter.mpr ⟨held, decide_eq_true fun same => other same.symm⟩
  | expire now =>
      obtain ⟨live, held, rfl⟩ := List.mem_map.mp lived
      by_contra still
      refine gone (List.mem_map_of_mem ?_)
      change live ∈ (scheduler.ledger.expire now).2.liveOn device
      rw [Ledger.liveOn_expire sound.coherent]
      refine List.mem_filter.mpr ⟨held, ?_⟩
      simpa using fun expired => still ⟨live, held, rfl, expired⟩
  | update place now =>
      rw [perform, scheduler.map_liveOn_update place now _ (fun _ _ => rfl)] at gone
      exact gone lived
  | updateAll now =>
      rw [perform, scheduler.map_liveOn_updateAll now _ (fun _ _ => rfl)] at gone
      exact gone lived

/-- Without a rotation nobody gets the turn, and whoever has it keeps it or goes away. -/
theorem active_perform (sound : scheduler.Sound)
    (unturned : scheduler.rotates device operation = false) :
    ((scheduler.perform operation).lineOn device).active = (scheduler.lineOn device).active ∨
      ((scheduler.perform operation).lineOn device).active = none ∧
        ∃ id, (scheduler.lineOn device).active = some id ∧ scheduler.Departs device id operation := by
  have present (line : Line) {id : String} (turn : line.active = some id) : id ∈ line.everyone :=
    List.mem_append_right _ (by simp [turn])
  have step := step_line sound device operation
  have next := (sound.perform operation).everyone_perm device
  rw [unturned] at step
  generalize after : (scheduler.perform operation).lineOn device = line at step next ⊢
  cases step with
  | leave kept =>
      cases turn : (scheduler.lineOn device).active with
      | none => exact .inl (by rw [Line.keep, turn, Option.filter_none])
      | some id =>
          by_cases stays : kept id = true
          · exact .inl (by rw [Line.keep, turn, Option.filter_some, if_pos stays])
          · refine .inr ⟨by rw [Line.keep, turn, Option.filter_some, if_neg stays], id, rfl, ?_⟩
            have lived := (sound.everyone_perm device).mem_iff.mp (present _ turn)
            refine departs_of_gone sound lived fun lives => stays ?_
            rw [← next.mem_iff, Line.everyone_keep] at lives
            exact (List.mem_filter.mp lives).2
  | join id new => exact .inl rfl

end Turns

/-- What the turns of a device look like from a state on: its clock only goes forward, and
between two rotations nobody gets the turn and only a departure ends it. -/
structure TurnsByRotation (scheduler : TimeSlicingScheduler) (device : String) : Prop where
  clock : ∀ last operations, scheduler.lastSwitch? device = some last →
    ∃ later, (scheduler.run operations).lastSwitch? device = some later ∧ last ≤ later
  starts : ∀ id operation, ((scheduler.perform operation).lineOn device).active = some id →
    (scheduler.lineOn device).active = some id ∨ scheduler.rotates device operation
  ends : ∀ id operation, (scheduler.lineOn device).active = some id →
    ((scheduler.perform operation).lineOn device).active = some id ∨
      scheduler.rotates device operation ∨ scheduler.Departs device id operation

theorem Sound.turnsByRotation {scheduler : TimeSlicingScheduler} (sound : scheduler.Sound)
    (positive : .zero < scheduler.config.timeSlice) (device : String) :
    scheduler.TurnsByRotation device where
  clock last operations known := lastSwitch?_run sound positive known operations
  starts id operation turn := by
    by_cases turned : scheduler.rotates device operation = true
    · exact .inr turned
    · rcases active_perform sound (Bool.eq_false_iff.mpr turned) with same | ⟨none, _⟩
      · exact .inl (same ▸ turn)
      · rw [none] at turn
        cases turn
  ends id operation turn := by
    by_cases turned : scheduler.rotates device operation = true
    · exact .inr (.inl turned)
    · rcases active_perform sound (Bool.eq_false_iff.mpr turned) with same | ⟨_, other, had, departs⟩
      · exact .inl (same.trans turn)
      · rw [turn] at had
        cases had
        exact .inr (.inr departs)

theorem config_run (scheduler : TimeSlicingScheduler) (operations : List Operation) :
    (scheduler.run operations).config = scheduler.config := by
  induction operations generalizing scheduler with
  | nil => rfl
  | cons operation rest ih => exact (ih _).trans (config_perform operation)

/-- In every run of a scheduler, whatever instants its operations give, a device is added at
most once, and then all its rotations are a slice apart and its clock shows the last of them.
In every state of the run, its turns begin and end with rotations. -/
theorem run_slices (config : SchedulerConfig) (policy : AllocationPolicy)
    (positive : .zero < config.timeSlice) (operations : List Operation) (device : String) :
    let start : TimeSlicingScheduler := { config, policy }
    ((start.additionsOn device operations = [] ∧ start.rotationsOn device operations = [] ∧
        (start.run operations).lastSwitch? device = none) ∨
      ∃ added, start.additionsOn device operations = [added] ∧
        Spaced config.timeSlice (added :: start.rotationsOn device operations) ∧
        (start.run operations).lastSwitch? device =
          (added :: start.rotationsOn device operations).getLast?) ∧
    (start.run operations).TurnsByRotation device := by
  intro start
  have sound : start.Sound := sound_new config policy
  refine ⟨spaced_of_unknown sound positive rfl operations, ?_⟩
  exact (sound.run operations).turnsByRotation (by rwa [config_run]) device

/-- Two workloads share a device while the instants step back and forth; the device counts as
added with the first of them, and a later registration leaves its clock alone. -/
theorem run_slices_stepping_back :
    let join (id : String) (milliseconds : Int) : Operation := .allocate "card0"
      { id
        workload := { pod := id, space := "default", container := "main" }
        fraction := 0.5
        memoryMib := 1024
        isolation := .timeSlice
        sharing := true } ⟨⟨0, 0⟩, ⟨milliseconds * 1000000⟩⟩
    let update (milliseconds : Int) : Operation := .update "card0" ⟨milliseconds * 1000000⟩
    let operations := [join "a" 50, update 149, update 150, join "b" 20, update 10,
      .register "card0" 8192 ⟨500 * 1000000⟩, update 249, .updateAll ⟨400 * 1000000⟩, update 260]
    let start : TimeSlicingScheduler := { config := {}, policy := {} }
    .zero < ({} : SchedulerConfig).timeSlice ∧
      start.additionsOn "card0" operations = [⟨50000000⟩] ∧
      start.rotationsOn "card0" operations = [⟨150000000⟩, ⟨400000000⟩] ∧
      Spaced (.ofMilliseconds 100) [⟨50000000⟩, ⟨150000000⟩, ⟨400000000⟩] ∧
      (start.run operations).TurnsByRotation "card0" := by
  intro join update operations start
  have positive : .zero < ({} : SchedulerConfig).timeSlice := by decide
  have additions : start.additionsOn "card0" operations = [⟨50000000⟩] := by decide +kernel
  have rotations : start.rotationsOn "card0" operations = [⟨150000000⟩, ⟨400000000⟩] := by
    decide +kernel
  obtain ⟨clock, turns⟩ := run_slices {} {} positive operations "card0"
  rcases clock with ⟨none, _⟩ | ⟨added, once, spaced, _⟩
  · exact absurd (additions.symm.trans none) (List.cons_ne_nil _ _)
  · obtain rfl : ⟨50000000⟩ = added := (List.cons.inj (additions.symm.trans once)).1
    rw [rotations] at spaced
    exact ⟨positive, additions, rotations, spaced, turns⟩

end TimeSlicingScheduler

end GpuSharing
