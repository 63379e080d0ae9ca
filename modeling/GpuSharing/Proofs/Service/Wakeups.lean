import GpuSharing.Proofs.Service.Totals

/-!
# No refresh goes unnoticed

Refreshes of the registry and the loop that passes them on to the allocators run side by side,
each in several parts between which the others may come. A refresh wakes the loop at its end,
but a wake-up that is still pending swallows further ones, and the loop may be amid a sync by
then. It still misses none: once it waits and no wake-up is pending, its last sync has begun
after the last refresh was through.
-/

set_option autoImplicit false

namespace GpuSharing

/-- A refresh that has its report and is bringing the registry in line with it. -/
structure Refreshing where
  now : Timestamp
  seen : List String
  rest : List DeviceDescriptor
  entered : List String := []
  vanished : Bool := false

def Refreshing.start (report : DiscoveryReport) (now : Timestamp) : Refreshing :=
  { now
    seen := report.failures.map (·.device) ++ report.devices.map (·.device)
    rest := report.devices }

inductive SyncTask where
  | waiting
  | woken
  /-- The devices are listed, and these are still to be entered. -/
  | syncing (rest : List Device)

def SyncTask.rest : SyncTask → List Device
  | .syncing rest => rest
  | _ => []

/-- A node with the refreshes under way and the loop that syncs it. -/
structure SyncLoop where
  service : AllocationService
  refreshes : List Refreshing := []
  task : SyncTask := .waiting

inductive SyncEvent where
  | failed
  | reported
  | entered
  | vanished
  | finished
  | received
  | began
  | registered
  | ended
  | used
  deriving DecidableEq

/-- A node that is set up, has searched for devices once, and gets its loops. -/
def ServiceSetup.started (setup : ServiceSetup) (discovery : Discovery) (clock : Clock)
    (intervals : LoopIntervals) (now : Instant) : ServiceLoops × AllocationService :=
  (setup.service.refresh discovery clock).2.startLoops intervals now

namespace SyncLoop

open AllocationService

def withRegistry (loop : SyncLoop) (registry : DeviceRegistry) : SyncLoop :=
  { loop with service := { loop.service with registry } }

/-- One part of a refresh or of the loop, or one use of the node in between. -/
inductive Step (subscription : Nat) : SyncLoop → SyncEvent → SyncLoop → Prop where
  | fail (loop : SyncLoop) (error : DiscoveryError) (now : Timestamp) :
      Step subscription loop .failed
        (loop.withRegistry (loop.service.registry.refreshAll (.error error) now).2)
  | report (loop : SyncLoop) (report : DiscoveryReport) (now : Timestamp) :
      Step subscription loop .reported
        { loop with refreshes := .start report now :: loop.refreshes }
  | enter {loop : SyncLoop} (before after : List Refreshing) {refresh : Refreshing}
      {descriptor : DeviceDescriptor} {rest : List DeviceDescriptor}
      (underway : loop.refreshes = before ++ refresh :: after)
      (next : refresh.rest = descriptor :: rest) :
      Step subscription loop .entered
        { loop.withRegistry (loop.service.registry.upsert descriptor refresh.now).2 with
          refreshes := before ++
            { refresh with rest, entered := descriptor.device :: refresh.entered } :: after }
  | vanish {loop : SyncLoop} (before after : List Refreshing) {refresh : Refreshing}
      (underway : loop.refreshes = before ++ refresh :: after)
      (through : refresh.rest = []) (unvanished : refresh.vanished = false) :
      Step subscription loop .vanished
        { loop.withRegistry (loop.service.registry.vanish refresh.seen).2 with
          refreshes := before ++ { refresh with vanished := true } :: after }
  | finish {loop : SyncLoop} (before after : List Refreshing) {refresh : Refreshing}
      (underway : loop.refreshes = before ++ refresh :: after)
      (through : refresh.rest = []) (vanished : refresh.vanished = true) :
      Step subscription loop .finished
        { loop.withRegistry loop.service.registry.notify with refreshes := before ++ after }
  | receive {loop : SyncLoop} (waiting : loop.task = .waiting)
      (pending : (loop.service.registry.receive subscription).1 = true) :
      Step subscription loop .received
        { loop.withRegistry (loop.service.registry.receive subscription).2 with task := .woken }
  | begin {loop : SyncLoop} (woken : loop.task = .woken) :
      Step subscription loop .began { loop with task := .syncing loop.service.registry.list }
  | register {loop : SyncLoop} {device : Device} {rest : List Device}
      (syncing : loop.task = .syncing (device :: rest)) (now : Instant) :
      Step subscription loop .registered
        { loop with service := (loop.service.syncDevice device now).2, task := .syncing rest }
  | done {loop : SyncLoop} (syncing : loop.task = .syncing []) :
      Step subscription loop .ended { loop with task := .waiting }
  | use (loop : SyncLoop) {operation : AllocationService.Operation}
      (same : operation.discovers = false) :
      Step subscription loop .used { loop with service := loop.service.perform operation }

/-- A node as it is run from some state on, with all that has happened, the latest first. -/
inductive Run (subscription : Nat) (start : SyncLoop) : List SyncEvent → SyncLoop → Prop where
  | start : Run subscription start [] start
  | step {events : List SyncEvent} {event : SyncEvent} {loop next : SyncLoop}
      (run : Run subscription start events loop) (step : Step subscription loop event next) :
      Run subscription start (event :: events) next

section Whole

/-! Without anything in between, the parts of a refresh make up a whole one, and those of the
loop a whole turn of it. -/

variable {subscription : Nat} {start loop : SyncLoop} {events : List SyncEvent}

theorem Run.enterAll {refresh : Refreshing} {others : List Refreshing}
    (run : Run subscription start events { loop with refreshes := refresh :: others }) :
    ∃ parts entered, Run subscription start (parts ++ events)
      { loop.withRegistry (loop.service.registry.upsertAll refresh.now refresh.rest).2 with
        refreshes := { refresh with rest := [], entered } :: others } := by
  obtain ⟨now, seen, rest, entered, vanished⟩ := refresh
  induction rest generalizing loop events entered with
  | nil => exact ⟨[], entered, run⟩
  | cons descriptor rest ih =>
      have first := run.step (.enter [] others rfl rfl)
      obtain ⟨parts, names, all⟩ := @ih (loop.withRegistry _) _ _ first
      refine ⟨parts ++ [.entered], names, ?_⟩
      rw [List.append_assoc]
      exact all

theorem Run.poll (run : Run subscription start events loop) (discovery : Discovery)
    (now : Timestamp) : ∃ parts, Run subscription start (parts ++ events)
      { loop with service := loop.service.poll discovery now } := by
  cases discovery with
  | error error => exact ⟨[.failed], run.step (.fail loop error now)⟩
  | ok report =>
      obtain ⟨parts, names, entered⟩ := (run.step (.report loop report now)).enterAll
      have vanished := entered.step (.vanish [] loop.refreshes rfl rfl rfl)
      have finished := vanished.step (.finish [] loop.refreshes rfl rfl rfl)
      refine ⟨.finished :: .vanished :: parts ++ [.reported], ?_⟩
      rw [List.append_assoc]
      exact finished

theorem Run.syncEach {devices : List Device} (now : Instant)
    (run : Run subscription start events { loop with task := .syncing devices }) :
    ∃ parts, Run subscription start (parts ++ events)
      { loop with service := (loop.service.syncEach now devices).2, task := .waiting } := by
  induction devices generalizing loop events with
  | nil => exact ⟨[.ended], run.step (.done rfl)⟩
  | cons device rest ih =>
      have first := run.step (.register rfl now)
      obtain ⟨parts, all⟩ :=
        @ih { loop with service := (loop.service.syncDevice device now).2 } _ first
      refine ⟨parts ++ [.registered], ?_⟩
      rw [List.append_assoc]
      exact all

theorem Run.syncIfNotified (run : Run subscription start events loop)
    (waiting : loop.task = .waiting) (now : Instant) :
    ∃ parts, Run subscription start (parts ++ events)
      { loop with service := loop.service.syncIfNotified subscription now } := by
  obtain ⟨service, refreshes, task⟩ := loop
  obtain rfl : task = .waiting := waiting
  unfold AllocationService.syncIfNotified
  cases answered : service.registry.receive subscription with
  | mk pending registry =>
      cases pending with
      | false =>
          have same := DeviceRegistry.receive_of_not_pending (congrArg Prod.fst answered)
          rw [answered] at same
          subst same
          exact ⟨[], run⟩
      | true =>
          have received := run.step (.receive rfl (congrArg Prod.fst answered))
          rw [answered] at received
          have began := received.step (.begin rfl)
          obtain ⟨parts, synced⟩ := Run.syncEach now began
          refine ⟨parts ++ [.began, .received], ?_⟩
          rw [List.append_assoc]
          exact synced

end Whole

section Attention

variable {subscription : Nat} {loop next : SyncLoop} {event : SyncEvent} {device : String}

/-- A wake-up is pending, or no sync has begun since the loop received one. -/
def Wakeful (loop : SyncLoop) (subscription : Nat) : Prop :=
  (loop.service.registry.receive subscription).1 = true ∨ loop.task = .woken

def Entering (loop : SyncLoop) (device : String) : Prop :=
  ∃ refresh ∈ loop.refreshes, device ∈ refresh.entered

/-- The loop is going to be told of every undivided device: by a refresh that will wake it, as
soon as it syncs, or because the sync that it is in, or was in last, covers the device. -/
structure Attentive (loop : SyncLoop) (subscription : Nat) : Prop where
  listens : loop.service.registry.Listens subscription
  assessed : loop.service.registry.Assessed
  covers : ∀ device descriptor, loop.service.registry.described? device = some descriptor →
    descriptor.partition = none →
    loop.Entering device ∨ loop.Wakeful subscription ∨
      loop.service.Covers loop.task.rest device descriptor.memoryTotalMib

theorem listens_step (listens : loop.service.registry.Listens subscription)
    (step : Step subscription loop event next) : next.service.registry.Listens subscription := by
  cases step with
  | fail | report | enter | vanish | begin | done => exact listens
  | finish => exact listens.notify
  | receive => exact listens.receive subscription
  | @register device _ _ now => exact listens.congr ((stable_subscriptions _).entered _ device now rfl)
  | use same => exact listens.congr ((stable_subscriptions _).perform rfl same)

theorem assessed_step (assessed : loop.service.registry.Assessed)
    (step : Step subscription loop event next) : next.service.registry.Assessed := by
  cases step with
  | fail | report | finish | receive | begin | done => exact assessed
  | enter => exact assessed.upsert _ _
  | vanish => exact assessed.vanish _
  | @register device _ _ now => exact stable_assessed.entered _ device now assessed
  | use => exact assessed_perform assessed _

theorem described_step {descriptor : DeviceDescriptor}
    (step : Step subscription loop event next)
    (described : next.service.registry.described? device = some descriptor) :
    loop.service.registry.described? device = some descriptor ∨ next.Entering device := by
  cases step with
  | fail | report | finish | receive | begin | done => exact .inl described
  | enter before after =>
      change (loop.service.registry.upsert _ _).2.described? device = _ at described
      rw [DeviceRegistry.described?_upsert] at described
      split at described
      · rename_i same
        exact .inr ⟨_, List.mem_append_right before List.mem_cons_self, same ▸ List.mem_cons_self⟩
      · exact .inl described
  | vanish => exact .inl (DeviceRegistry.described?_vanish described)
  | @register entered _ _ now =>
      have same := (stable_described _).entered loop.service entered now rfl
      exact .inl (same ▸ described)
  | @use operation discovers =>
      have same := @(stable_described _).perform _ loop.service rfl operation discovers
      exact .inl (same ▸ described)

theorem entering_replace {before after : List Refreshing} {old new : Refreshing}
    (entering : ∃ refresh ∈ before ++ old :: after, device ∈ refresh.entered)
    (kept : device ∈ old.entered → device ∈ new.entered) :
    ∃ refresh ∈ before ++ new :: after, device ∈ refresh.entered := by
  obtain ⟨refresh, member, entered⟩ := entering
  rcases List.mem_append.mp member with earlier | here
  · exact ⟨refresh, List.mem_append_left _ earlier, entered⟩
  · rcases List.mem_cons.mp here with rfl | later
    · exact ⟨new, List.mem_append_right before List.mem_cons_self, kept entered⟩
    · exact ⟨refresh, List.mem_append_right before (List.mem_cons_of_mem new later), entered⟩

theorem Entering.step (entering : loop.Entering device)
    (step : Step subscription loop event next) : next.Entering device ∨ event = .finished := by
  unfold Entering at entering
  cases step with
  | fail | receive | begin | register | done | use => exact .inl entering
  | report =>
      obtain ⟨refresh, member, entered⟩ := entering
      exact .inl ⟨refresh, List.mem_cons_of_mem _ member, entered⟩
  | finish => exact .inr rfl
  | enter before after underway =>
      rw [underway] at entering
      exact .inl (entering_replace entering (List.mem_cons_of_mem _))
  | vanish before after underway =>
      rw [underway] at entering
      exact .inl (entering_replace entering id)

/-- A refresh that is through wakes the loop, and it stays awake until it syncs. -/
theorem wakeful_step (listens : loop.service.registry.Listens subscription)
    (step : Step subscription loop event next)
    (wakeful : loop.Wakeful subscription ∨ event = .finished) :
    next.Wakeful subscription ∨ event = .began := by
  cases step with
  | fail | report | enter | vanish => exact .inl (wakeful.resolve_right nofun)
  | finish => exact .inl (.inl listens.receive_notify)
  | receive => exact .inl (.inr rfl)
  | begin => exact .inr rfl
  | @register device rest syncing now =>
      rcases wakeful.resolve_right nofun with pending | woken
      · have same := (stable_subscriptions _).entered loop.service device now rfl
        exact .inl (.inl ((DeviceRegistry.receive_congr same).trans pending))
      · rw [syncing] at woken
        cases woken
  | done syncing =>
      rcases wakeful.resolve_right nofun with pending | woken
      · exact .inl (.inl pending)
      · rw [syncing] at woken
        cases woken
  | @use operation discovers =>
      rcases wakeful.resolve_right nofun with pending | woken
      · have same := @(stable_subscriptions _).perform _ loop.service rfl operation discovers
        exact .inl (.inl ((DeviceRegistry.receive_congr same).trans pending))
      · exact .inl (.inr woken)

/-- What a sync covers stays covered as it goes on, whatever else is done with the node. -/
theorem covers_step {descriptor : DeviceDescriptor} (assessed : loop.service.registry.Assessed)
    (described : next.service.registry.described? device = some descriptor)
    (undivided : descriptor.partition = none) (step : Step subscription loop event next)
    (covers : loop.service.Covers loop.task.rest device descriptor.memoryTotalMib ∨
      event = .began) :
    next.service.Covers next.task.rest device descriptor.memoryTotalMib := by
  cases step with
  | begin => exact covers_list assessed described undivided
  | fail | report | enter | vanish | finish => exact (covers.resolve_right nofun).withRegistry _
  | receive waiting =>
      rw [waiting] at covers
      exact (covers.resolve_right nofun).withRegistry _
  | register syncing now =>
      rw [syncing] at covers
      exact (covers.resolve_right nofun).syncDevice now
  | done syncing =>
      rw [syncing] at covers
      exact covers.resolve_right nofun
  | @use operation discovers =>
      have covers := covers.resolve_right nofun
      refine ⟨covers.agrees, covers.told.imp_right fun measured => ?_⟩
      by_cases synced : ∃ now, operation = .sync now
      · -- It may be entered again, but as it is described now.
        obtain ⟨now, rfl⟩ := synced
        exact measured_sync assessed described undivided
      · exact (steady_measured _ _).perform measured discovers fun now same => synced ⟨now, same⟩

theorem Attentive.step (attentive : loop.Attentive subscription)
    (step : Step subscription loop event next) : next.Attentive subscription where
  listens := listens_step attentive.listens step
  assessed := assessed_step attentive.assessed step
  covers device descriptor described undivided := by
    have covered := covers_step attentive.assessed described undivided step
    have awake (wakeful : loop.Wakeful subscription ∨ event = .finished) :
        next.Wakeful subscription ∨
          next.service.Covers next.task.rest device descriptor.memoryTotalMib :=
      (wakeful_step attentive.listens step wakeful).imp_right fun began => covered (.inr began)
    -- The device was described like this before, or a refresh under way has just entered it.
    rcases described_step step described with earlier | entering
    · rcases attentive.covers device descriptor earlier undivided with
        entering | wakeful | covers
      · rcases entering.step step with entering | finished
        · exact .inl entering
        · exact .inr (awake (.inr finished))
      · exact .inr (awake (.inl wakeful))
      · exact .inr (.inr (covered (.inl covers)))
    · exact .inl entering

end Attention

section Runs

variable {subscription : Nat} {start loop : SyncLoop} {events : List SyncEvent}

theorem Attentive.run (attentive : start.Attentive subscription)
    (run : Run subscription start events loop) : loop.Attentive subscription := by
  induction run with
  | start => exact attentive
  | step _ step ih => exact ih.step step

/-- While the loop is not awake, a sync has begun since the last refresh was through. -/
theorem Run.wakeful_or_began (attentive : start.Attentive subscription)
    (run : Run subscription start events loop) : loop.Wakeful subscription ∨
      ∀ later earlier, events = later ++ .finished :: earlier → .began ∈ later := by
  induction run with
  | start =>
      refine .inr fun later earlier none => ?_
      simp at none
  | @step events event loop next run step ih =>
      by_cases awake : next.Wakeful subscription
      · exact .inl awake
      -- From a loop that is awake, or that a refresh wakes, only a sync leads to one that is not.
      have begins (wakeful : loop.Wakeful subscription ∨ event = .finished) : event = .began :=
        (wakeful_step (attentive.run run).listens step wakeful).resolve_left awake
      refine .inr fun later earlier shape => ?_
      rcases List.cons_eq_append_iff.mp shape with ⟨_, last⟩ | ⟨rest, rfl, before⟩
      · obtain ⟨rfl, _⟩ := List.cons.inj last
        exact absurd (begins (.inr rfl)) nofun
      · rcases ih with wakeful | synced
        · rw [begins (.inl wakeful)]
          exact List.mem_cons_self
        · exact List.mem_cons_of_mem event (synced rest earlier before)

theorem attentive_started (setup : ServiceSetup) (discovery : Discovery) (clock : Clock)
    (intervals : LoopIntervals) (now : Instant) :
    Attentive { service := (setup.started discovery clock intervals now).2 }
      (setup.started discovery clock intervals now).1.subscription where
  listens := DeviceRegistry.listens_subscribe _
  assessed := assessed_run setup [.refresh discovery clock]
  covers device descriptor described undivided := by
    change (setup.service.refresh discovery clock).2.registry.described? device = _ at described
    refine .inr (.inr ⟨fun later none => (by cases none), .inr ?_⟩)
    have measured : (setup.service.refresh discovery clock).2.Measured device
        descriptor.memoryTotalMib := by
      cases discovery with
      | error error => cases described
      | ok report =>
          have assessed := (DeviceRegistry.assessed_new setup.registry).refreshAll (.ok report)
            clock.wall
          exact measured_sync assessed described undivided
    exact measured.withRegistry _

end Runs

/-- However the refreshes of a node, the loop that syncs it and all other use come in between
each other: when the loop waits and no wake-up is pending, its last sync has begun after the last
refresh was through, and the allocators know how much memory every undivided device has that no
refresh still under way has entered. -/
theorem run_caught_up (setup : ServiceSetup) (discovery : Discovery) (clock : Clock)
    (intervals : LoopIntervals) (now : Instant) {events : List SyncEvent} {loop : SyncLoop}
    (run : Run (setup.started discovery clock intervals now).1.subscription
      { service := (setup.started discovery clock intervals now).2 } events loop)
    (waiting : loop.task = .waiting)
    (idle : (loop.service.registry.receive
      (setup.started discovery clock intervals now).1.subscription).1 = false) :
    (∀ later earlier, events = later ++ .finished :: earlier → .began ∈ later) ∧
      ∀ device known, loop.service.registry.devices.get? device = some known →
        known.descriptor.partition = none →
        (∀ refresh ∈ loop.refreshes, device ∉ refresh.entered) →
        loop.service.fractional.memory? device = some known.descriptor.memoryTotalMib ∧
          loop.service.scheduler.memory? device =
            some (loop.service.scheduler.effectiveMemory known.descriptor.memoryTotalMib) := by
  have attentive := attentive_started setup discovery clock intervals now
  have asleep : ¬loop.Wakeful (setup.started discovery clock intervals now).1.subscription := by
    intro awake
    rcases awake with pending | woken
    · rw [idle] at pending
      cases pending
    · rw [waiting] at woken
      cases woken
  refine ⟨(run.wakeful_or_began attentive).resolve_left asleep, ?_⟩
  intro device known stored undivided settled
  have described := DeviceRegistry.described?_of_get? stored
  rcases (attentive.run run).covers device known.descriptor described undivided with
    ⟨refresh, underway, entered⟩ | wakeful | covers
  · exact absurd entered (settled refresh underway)
  · exact absurd wakeful asleep
  · rw [waiting] at covers
    exact ⟨covers.measured.shared_eq, covers.measured.sliced_eq⟩

def foundOf (memoryTotalBytes : UInt64) : Discovery :=
  .ok { source := "scripted", devices := [{ device := "card0", model := "gpu", memoryTotalBytes }] }

/-- A node starts with a device of 8 GiB. -/
def startedSmall : ServiceLoops × AllocationService :=
  ({} : ServiceSetup).started (foundOf 8589934592) ⟨⟨1700000000, 0⟩, ⟨0⟩⟩ {} ⟨0⟩

/-- The device is found to have grown to 16 GiB, and then to 32, before the loop takes its turn. -/
def grownTwice : AllocationService :=
  ((startedSmall.2.poll (foundOf 17179869184) ⟨1700000030, 0⟩).poll (foundOf 34359738368)
    ⟨1700000060, 0⟩).syncIfNotified startedSmall.1.subscription ⟨60⟩

theorem caught_up_grownTwice : ∃ events,
    Run startedSmall.1.subscription { service := startedSmall.2 } events
      { service := grownTwice } ∧
    (grownTwice.registry.receive startedSmall.1.subscription).1 = false ∧
    grownTwice.fractional.memory? "card0" = some 32768 := by
  have launched : Run startedSmall.1.subscription { service := startedSmall.2 } []
    { service := startedSmall.2 } := .start
  obtain ⟨_, once⟩ := launched.poll (foundOf 17179869184) ⟨1700000030, 0⟩
  obtain ⟨_, twice⟩ := once.poll (foundOf 34359738368) ⟨1700000060, 0⟩
  obtain ⟨_, synced⟩ := twice.syncIfNotified rfl ⟨60⟩
  have idle : (grownTwice.registry.receive startedSmall.1.subscription).1 = false := by
    decide +kernel
  have described : (grownTwice.registry.devices.get? "card0").map (fun known =>
      (known.descriptor.memoryTotalMib, known.descriptor.partition)) = some (32768, none) := by
    decide +kernel
  obtain ⟨known, stored, same⟩ := Option.map_eq_some_iff.mp described
  obtain ⟨memory, undivided⟩ := Prod.mk.inj same
  obtain ⟨_, told⟩ := run_caught_up {} (foundOf 8589934592) ⟨⟨1700000000, 0⟩, ⟨0⟩⟩ {} ⟨0⟩ synced
    rfl idle
  refine ⟨_, synced, idle, ?_⟩
  rw [← memory]
  exact (told "card0" known stored undivided nofun).1

end SyncLoop

end GpuSharing
