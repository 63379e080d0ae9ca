import GpuSharing.Proofs.Turns.Device
import GpuSharing.Turns.Scheduler

/-!
# Turns in the time-slicing scheduler

However the scheduler is used, and at whatever instants the turns are passed on, the
devices keep their workloads, queues and turns in step, and memory is never given
away twice.
-/

set_option autoImplicit false

namespace GpuSharing

namespace TimeSlicingScheduler

inductive Operation where
  | register (device : String) (reported : UInt64) (now : Instant)
  | allocate (device : String) (request : AllocationRequest) (clock : Clock)
  | release (id : String)
  | expire (now : Timestamp)
  | update (device : String) (now : Instant)
  | updateAll (now : Instant)

def perform (scheduler : TimeSlicingScheduler) : Operation → TimeSlicingScheduler
  | .register device reported now => scheduler.register device reported now
  | .allocate device request clock => (scheduler.allocate device request clock).2
  | .release id => (scheduler.release id).2
  | .expire now => (scheduler.expire now).2
  | .update device now => (scheduler.update device now).2
  | .updateAll now => (scheduler.updateAll now).2

def run (scheduler : TimeSlicingScheduler) (operations : List Operation) :
    TimeSlicingScheduler :=
  operations.foldl perform scheduler

theorem workloads_deviceOrNew (scheduler : TimeSlicingScheduler) (device : String)
    (now : Instant) :
    (scheduler.deviceOrNew device now).workloads = scheduler.ledger.liveOn device := by
  unfold deviceOrNew Ledger.liveOn
  cases scheduler.ledger.devices.get? device with
  | none => rfl
  | some known => rfl

private theorem guarded_eq_ok {α : Type} {first : Outcome α} {second third : Outcome Unit}
    {result : α} :
    (do let value ← first; second; third; pure value) = .ok result ↔
      first = .ok result ∧ second = .ok () ∧ third = .ok () := by
  simp only [Outcome.bind_eq_ok, Outcome.pure_eq_ok]
  constructor
  · rintro ⟨_, succeeded, _, also, _, lastly, rfl⟩
    exact ⟨succeeded, also, lastly⟩
  · rintro ⟨succeeded, also, lastly⟩
    exact ⟨result, succeeded, (), also, (), lastly, rfl⟩

theorem check_eq_ok {scheduler : TimeSlicingScheduler} {device : String}
    {request : AllocationRequest} {share : Share} (now : Instant) :
    scheduler.check device request = .ok share ↔
      scheduler.policy.vet request = .ok share ∧
        scheduler.ledger.owners.get? request.id = none ∧
        request.memoryMib ≤ monus (scheduler.deviceOrNew device now).memoryTotalMib
          (scheduler.deviceOrNew device now).memoryUsedMib := by
  unfold check Ledger.requireUnused requireMemory deviceOrNew
  cases scheduler.ledger.devices.get? device with
  | none => exact guarded_eq_ok.trans (by simp only [require_eq_ok])
  | some known => exact guarded_eq_ok.trans (by simp only [require_eq_ok])

/-- A request is turned down without a trace, or joins the queue of its device. -/
theorem allocate_cases (scheduler : TimeSlicingScheduler) (device : String)
    (request : AllocationRequest) (clock : Clock) :
    (∃ failure, scheduler.allocate device request clock = (.error failure, scheduler)) ∨
    ∃ share, scheduler.check device request = .ok share ∧
      scheduler.allocate device request clock =
        (.ok (.ofRequest device request share .pending clock.wall),
          { scheduler with
            ledger := scheduler.ledger.enter device
              ((scheduler.deviceOrNew device clock.monotonic).enqueue
                (.ofRequest device request share .pending clock.wall))
              (.ofRequest device request share .pending clock.wall) }) := by
  unfold allocate
  cases checked : scheduler.check device request with
  | error failure => exact .inl ⟨failure, rfl⟩
  | ok share => exact .inr ⟨share, rfl, rfl⟩

/-- The turn on a device passes on or stays. -/
theorem update_cases (scheduler : TimeSlicingScheduler) (device : String) (now : Instant) :
    (scheduler.update device now).2 = scheduler ∨
    ∃ known, scheduler.ledger.devices.get? device = some known ∧
      (scheduler.update device now).2 = { scheduler with
        ledger.devices := scheduler.ledger.devices.insert device (known.rotate now).2 } := by
  unfold update Ledger.device
  cases known : scheduler.ledger.devices.get? device with
  | none => exact .inl rfl
  | some found =>
      by_cases early : now.since found.lastSwitch < scheduler.config.timeSlice
      · simp only [if_pos early]
        exact .inl trivial
      · simp only [if_neg early]
        exact .inr ⟨found, rfl, rfl⟩

/-- Passing all turns on is passing them on one by one. -/
theorem updateAll_eq (scheduler : TimeSlicingScheduler) (now : Instant) :
    (scheduler.updateAll now).2 = scheduler.ledger.deviceIds.foldl
      (fun scheduler device => (scheduler.update device now).2) scheduler := by
  refine (List.foldl_hom Prod.snd fun (rotations, current) device => ?_).symm
  cases updated : current.update device now with
  | mk outcome next =>
      cases outcome with
      | error failure => simp only [updated]
      | ok rotation =>
          cases rotation with
          | none => simp only [updated]
          | some rotation => simp only [updated]

section Memory

/-- The memory that a device is known to have. -/
def memory? (scheduler : TimeSlicingScheduler) (device : String) : Option UInt64 :=
  (scheduler.ledger.devices.get? device).map (·.memoryTotalMib)

variable (scheduler : TimeSlicingScheduler)

theorem memory?_register (place : String) (reported : UInt64) (now : Instant) (device : String) :
    (scheduler.register place reported now).memory? device =
      if device = place then some (scheduler.effectiveMemory reported)
      else scheduler.memory? device := by
  unfold memory? register
  rw [Keyed.get?_insert]
  split
  · cases scheduler.ledger.devices.get? place with
    | none => rfl
    | some known => rfl
  · rfl

variable {scheduler} in
/-- A device that is known with its memory is entered without a trace. -/
theorem register_eq_self {device : String} {reported : UInt64}
    (told : scheduler.memory? device = some (scheduler.effectiveMemory reported)) (now : Instant) :
    scheduler.register device reported now = scheduler := by
  obtain ⟨sliced, known, memory⟩ := Option.map_eq_some_iff.mp told
  unfold register
  rw [known, ← memory]
  simp only [Keyed.insert_eq_self known]

variable {scheduler} in
/-- A first use makes a device known; it changes nothing of one that is. -/
theorem memory?_allocate {device : String} {memory : UInt64}
    (told : scheduler.memory? device = some memory) (place : String)
    (request : AllocationRequest) (clock : Clock) :
    (scheduler.allocate place request clock).2.memory? device = some memory := by
  rcases scheduler.allocate_cases place request clock with ⟨_, refused⟩ | ⟨_, _, granted⟩
  · rw [refused]
    exact told
  · rw [granted]
    change (Keyed.get? (scheduler.ledger.devices.insert place _) device).map _ = some memory
    rw [Keyed.get?_insert]
    split
    · rename_i here
      obtain ⟨known, found, total⟩ := Option.map_eq_some_iff.mp told
      rw [← here, Option.map_some]
      change some (scheduler.deviceOrNew device clock.monotonic).memoryTotalMib = some memory
      rw [deviceOrNew, found, total]
    · exact told

theorem memory?_release (id : String) : (scheduler.release id).2.memory? = scheduler.memory? :=
  funext (Ledger.map_get?_release SlicedDevice.memoryTotal_remove id)

theorem memory?_expire (now : Timestamp) :
    (scheduler.expire now).2.memory? = scheduler.memory? :=
  funext (Ledger.map_get?_expire fun device => device.memoryTotal_removeAll _)

theorem memory?_update (place : String) (now : Instant) :
    (scheduler.update place now).2.memory? = scheduler.memory? := by
  rcases scheduler.update_cases place now with same | ⟨known, found, rotated⟩
  · rw [same]
  · rw [rotated]
    exact funext (Ledger.map_get?_insert found rfl)

theorem memory?_updateAll (now : Instant) :
    (scheduler.updateAll now).2.memory? = scheduler.memory? := by
  rw [updateAll_eq]
  induction scheduler.ledger.deviceIds generalizing scheduler with
  | nil => rfl
  | cons place rest ih =>
      exact (ih (scheduler.update place now).2).trans (scheduler.memory?_update place now)

theorem config_allocate (place : String) (request : AllocationRequest) (clock : Clock) :
    (scheduler.allocate place request clock).2.config = scheduler.config := by
  rcases scheduler.allocate_cases place request clock with ⟨_, refused⟩ | ⟨_, _, granted⟩
  · rw [refused]
  · rw [granted]

theorem config_update (place : String) (now : Instant) :
    (scheduler.update place now).2.config = scheduler.config := by
  rcases scheduler.update_cases place now with same | ⟨_, _, rotated⟩
  · rw [same]
  · rw [rotated]

theorem config_updateAll (now : Instant) :
    (scheduler.updateAll now).2.config = scheduler.config := by
  rw [updateAll_eq]
  induction scheduler.ledger.deviceIds generalizing scheduler with
  | nil => rfl
  | cons place rest ih =>
      exact (ih (scheduler.update place now).2).trans (scheduler.config_update place now)

end Memory

structure Sound (scheduler : TimeSlicingScheduler) : Prop where
  coherent : scheduler.ledger.Coherent
  inTurn : scheduler.ledger.Each SlicedDevice.InTurn

theorem sound_new (config : SchedulerConfig) (policy : AllocationPolicy) :
    ({ config, policy } : TimeSlicingScheduler).Sound :=
  ⟨Ledger.coherent_empty, fun _ _ found => by cases found⟩

theorem Sound.deviceOrNew {scheduler : TimeSlicingScheduler} (sound : scheduler.Sound)
    (device : String) (now : Instant) : (scheduler.deviceOrNew device now).InTurn := by
  unfold TimeSlicingScheduler.deviceOrNew
  cases known : scheduler.ledger.devices.get? device with
  | none => exact SlicedDevice.inTurn_empty scheduler.config.defaultMemoryMib now
  | some found => exact sound.inTurn device found known

theorem liveOn_register (scheduler : TimeSlicingScheduler) (device : String)
    (reported : UInt64) (now : Instant) (other : String) :
    (scheduler.register device reported now).ledger.liveOn other =
      scheduler.ledger.liveOn other := by
  refine Ledger.liveOn_insert_of_eq ?_ other
  unfold Ledger.liveOn
  cases scheduler.ledger.devices.get? device with
  | none => rfl
  | some known => rfl

theorem Sound.register {scheduler : TimeSlicingScheduler} (sound : scheduler.Sound)
    (device : String) (reported : UInt64) (now : Instant) :
    (scheduler.register device reported now).Sound := by
  refine ⟨sound.coherent.of_same_places rfl fun other => by rw [liveOn_register], ?_⟩
  unfold TimeSlicingScheduler.register
  cases known : scheduler.ledger.devices.get? device with
  | none => exact sound.inTurn.insert (SlicedDevice.inTurn_empty _ now)
  | some found => exact sound.inTurn.insert ((sound.inTurn device found known).resize _)

/-- What a check lets through has room beside the memory in use, and unless it takes
none it leaves no more in use than the device has. -/
theorem memory_of_check {scheduler : TimeSlicingScheduler} {device : String}
    {request : AllocationRequest} {share : Share}
    (checked : scheduler.check device request = .ok share) (now : Instant) :
    let known := scheduler.deviceOrNew device now
    known.memoryUsedMib.toNat + request.memoryMib.toNat < UInt64.size ∧
      (known.memoryUsedMib.toNat + request.memoryMib.toNat ≤ known.memoryTotalMib.toNat ∨
        request.memoryMib = 0) := by
  intro known
  obtain ⟨_, _, free⟩ := (check_eq_ok now).mp checked
  rcases fits_of_le_monus free with enough | none
  · exact ⟨Nat.lt_of_le_of_lt enough known.memoryTotalMib.toNat_lt, .inl enough⟩
  · exact ⟨by simpa [none] using known.memoryUsedMib.toNat_lt, .inr none⟩

theorem allocate_eq_error {scheduler next : TimeSlicingScheduler} {device : String}
    {request : AllocationRequest} {clock : Clock} {failure : Failure}
    (refused : scheduler.allocate device request clock = (.error failure, next)) :
    next = scheduler := by
  rcases scheduler.allocate_cases device request clock with
    ⟨_, same⟩ | ⟨_, _, granted⟩
  · rw [same] at refused
    exact (Prod.mk.inj refused).2.symm
  · rw [granted] at refused
    cases refused

theorem allocate_eq_ok {scheduler next : TimeSlicingScheduler} {device : String}
    {request : AllocationRequest} {clock : Clock} {workload : GpuAllocation}
    (granted : scheduler.allocate device request clock = (.ok workload, next)) :
    workload.Answers device request ∧ scheduler.ledger.Entered next.ledger workload := by
  rcases scheduler.allocate_cases device request clock with
    ⟨failure, refused⟩ | ⟨share, checked, done⟩
  · rw [refused] at granted
    cases granted
  · rw [done] at granted
    cases granted
    have unused := ((check_eq_ok clock.monotonic).mp checked).2.1
    refine ⟨⟨rfl, rfl, rfl, rfl, rfl⟩, Ledger.entered_enter unused rfl ?_⟩
    rw [← workloads_deviceOrNew scheduler device clock.monotonic]
    rfl

theorem Sound.allocate {scheduler : TimeSlicingScheduler} (sound : scheduler.Sound)
    (device : String) (request : AllocationRequest) (clock : Clock) :
    (scheduler.allocate device request clock).2.Sound := by
  rcases scheduler.allocate_cases device request clock with
    ⟨failure, refused⟩ | ⟨share, checked, granted⟩
  · rw [refused]
    exact sound
  · have entered := (allocate_eq_ok granted).2
    rw [granted]
    have fresh := sound.coherent.fresh entered.unused device
    rw [← workloads_deviceOrNew scheduler device clock.monotonic] at fresh
    exact ⟨sound.coherent.enter entered, sound.inTurn.insert
      ((sound.deviceOrNew device clock.monotonic).enqueue fresh rfl
        (memory_of_check checked clock.monotonic).1)⟩

theorem Sound.release {scheduler : TimeSlicingScheduler} (sound : scheduler.Sound)
    (id : String) : (scheduler.release id).2.Sound :=
  ⟨sound.coherent.release id, sound.inTurn.release sound.coherent id
    fun _ _ _ inTurn removed => inTurn.remove removed⟩

theorem Sound.expire {scheduler : TimeSlicingScheduler} (sound : scheduler.Sound)
    (now : Timestamp) : (scheduler.expire now).2.Sound :=
  ⟨sound.coherent.expire now, sound.inTurn.expire now fun _ inTurn => inTurn.removeAll _⟩

theorem map_liveOn_update {α : Type} (scheduler : TimeSlicingScheduler) (device : String)
    (now : Instant) (view : GpuAllocation → α)
    (unaffected : ∀ workload status, view { workload with status } = view workload)
    (other : String) :
    ((scheduler.update device now).2.ledger.liveOn other).map view =
      (scheduler.ledger.liveOn other).map view := by
  rcases scheduler.update_cases device now with same | ⟨known, found, rotated⟩
  · rw [same]
  · rw [rotated, Ledger.liveOn_insert]
    split
    · rename_i same
      rw [same, Ledger.liveOn_eq found]
      exact known.map_rotate now view unaffected
    · rfl

theorem owners_update (scheduler : TimeSlicingScheduler) (device : String) (now : Instant) :
    (scheduler.update device now).2.ledger.owners = scheduler.ledger.owners := by
  rcases scheduler.update_cases device now with same | ⟨known, _, rotated⟩
  · rw [same]
  · rw [rotated]

theorem Sound.update {scheduler : TimeSlicingScheduler} (sound : scheduler.Sound)
    (device : String) (now : Instant) : (scheduler.update device now).2.Sound := by
  refine ⟨sound.coherent.of_same_places (owners_update ..)
    fun other => scheduler.map_liveOn_update device now _ (fun _ _ => rfl) other, ?_⟩
  rcases scheduler.update_cases device now with same | ⟨known, found, rotated⟩
  · rw [same]
    exact sound.inTurn
  · rw [rotated]
    exact sound.inTurn.insert ((sound.inTurn device known found).rotate now)

theorem map_liveOn_updateAll {α : Type} (scheduler : TimeSlicingScheduler) (now : Instant)
    (view : GpuAllocation → α)
    (unaffected : ∀ workload status, view { workload with status } = view workload)
    (other : String) :
    ((scheduler.updateAll now).2.ledger.liveOn other).map view =
      (scheduler.ledger.liveOn other).map view := by
  rw [updateAll_eq]
  induction scheduler.ledger.deviceIds generalizing scheduler with
  | nil => rfl
  | cons device rest ih =>
      exact (ih (scheduler.update device now).2).trans
        (scheduler.map_liveOn_update device now view unaffected other)

theorem Sound.updateAll {scheduler : TimeSlicingScheduler} (sound : scheduler.Sound)
    (now : Instant) : (scheduler.updateAll now).2.Sound := by
  rw [updateAll_eq]
  induction scheduler.ledger.deviceIds generalizing scheduler with
  | nil => exact sound
  | cons device rest ih => exact ih (sound.update device now)

theorem Sound.perform {scheduler : TimeSlicingScheduler} (sound : scheduler.Sound)
    (operation : Operation) : (scheduler.perform operation).Sound := by
  cases operation with
  | register device reported now => exact sound.register device reported now
  | allocate device request clock => exact sound.allocate device request clock
  | release id => exact sound.release id
  | expire now => exact sound.expire now
  | update device now => exact sound.update device now
  | updateAll now => exact sound.updateAll now

theorem Sound.run {scheduler : TimeSlicingScheduler} (sound : scheduler.Sound)
    (operations : List Operation) : (scheduler.run operations).Sound := by
  induction operations generalizing scheduler with
  | nil => exact sound
  | cons operation rest ih => exact ih (sound.perform operation)

/-- A grant adds exactly the memory that was asked for, and unless that is none it
leaves no more memory in use than the device has. -/
theorem memory_of_grant {scheduler next : TimeSlicingScheduler} {device : String}
    {request : AllocationRequest} {clock : Clock} {workload : GpuAllocation}
    (granted : scheduler.allocate device request clock = (.ok workload, next)) :
    ∃ after, next.ledger.devices.get? device = some after ∧
      after.memoryTotalMib = (scheduler.deviceOrNew device clock.monotonic).memoryTotalMib ∧
      after.memoryUsedMib.toNat =
        (scheduler.deviceOrNew device clock.monotonic).memoryUsedMib.toNat +
          request.memoryMib.toNat ∧
      (after.memoryUsedMib.toNat ≤ after.memoryTotalMib.toNat ∨ request.memoryMib = 0) := by
  rcases scheduler.allocate_cases device request clock with
    ⟨failure, refused⟩ | ⟨share, checked, done⟩
  · rw [refused] at granted
    cases granted
  · rw [done] at granted
    obtain ⟨_, rfl⟩ := Prod.mk.inj granted
    obtain ⟨fits, enough⟩ := memory_of_check checked clock.monotonic
    have added : ((scheduler.deviceOrNew device clock.monotonic).memoryUsedMib +
        request.memoryMib).toNat = _ := (UInt64.toNat_add _ _).trans (Nat.mod_eq_of_lt fits)
    exact ⟨_, Keyed.get?_insert_self _ _ _, rfl, added, enough.imp_left (added ▸ ·)⟩

/-- In every state that a scheduler reaches, and after any removals from one of its
devices, everyone is in turn and no further removal takes more memory than is in use.
The next grant adds its memory without overflow, and within the memory of the device
unless it takes none. -/
theorem run_in_turn (config : SchedulerConfig) (policy : AllocationPolicy)
    (operations : List Operation) :
    (({ config, policy } : TimeSlicingScheduler).run operations).ledger.Each (fun device =>
      ∀ ids, (device.removeAll ids).2.InTurn ∧
        ∀ live ∈ (device.removeAll ids).2.workloads,
          live.memoryMib.toNat ≤ (device.removeAll ids).2.memoryUsedMib.toNat) ∧
    ∀ device request clock workload next,
      (({ config, policy } : TimeSlicingScheduler).run operations).allocate device request clock =
        (.ok workload, next) →
      ∃ after, next.ledger.devices.get? device = some after ∧
        after.memoryUsedMib.toNat =
          ((({ config, policy } : TimeSlicingScheduler).run operations).deviceOrNew device
            clock.monotonic).memoryUsedMib.toNat + request.memoryMib.toNat ∧
        (after.memoryUsedMib.toNat ≤ after.memoryTotalMib.toNat ∨ request.memoryMib = 0) := by
  have sound := (sound_new config policy).run operations
  constructor
  · intro device books found ids
    have left := (sound.inTurn device books found).removeAll ids
    exact ⟨left, fun live member => left.memory_le member⟩
  · intro device request clock workload next granted
    obtain ⟨after, found, _, added, enough⟩ := memory_of_grant granted
    exact ⟨after, found, added, enough⟩

end TimeSlicingScheduler

end GpuSharing
