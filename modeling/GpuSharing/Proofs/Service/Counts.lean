import GpuSharing.Proofs.Registry
import GpuSharing.Proofs.Service.Ownership

/-!
# Counts in the registry

Whatever is granted, released or dropped, the registry is told how much lives on the
devices that it touched before anybody else looks. So the number that a refresh goes by
is right, and no device is forgotten while something lives on it.
-/

set_option autoImplicit false

namespace GpuSharing.AllocationService

/-- The registry knows how much lives on each device. -/
def Counted (service : AllocationService) : Prop := service.registry.Tracks service.count []

variable {service : AllocationService}

theorem known_of_vet {device : String} {request : AllocationRequest} {kind : AllocatorKind}
    (vetted : service.vet device request = .ok kind) :
    ∃ found, service.registry.devices.get? device = some found := by
  have available := (vet_eq_ok.mp vetted).1
  unfold requireAvailable at available
  obtain ⟨found, known, _⟩ := Outcome.bind_eq_ok.mp available
  exact ⟨found, DeviceRegistry.get_eq_ok.mp known⟩

theorem tracks_syncCount (service : AllocationService) {stale : List String} {device : String}
    (tracks : service.registry.Tracks service.count (device :: stale)) :
    (service.syncCount device).registry.Tracks (service.syncCount device).count stale :=
  tracks.setActive

theorem counted_syncCounts {allocations : List GpuAllocation}
    (tracks : service.registry.Tracks service.count (allocations.map (·.device))) :
    (allocations.foldl (fun service live => service.syncCount live.device) service).Counted := by
  induction allocations generalizing service with
  | nil => exact tracks
  | cons allocation rest ih => exact ih (service.tracks_syncCount tracks)

/-- Where allocations only went, the devices that lost some are the stale ones. -/
theorem Counted.lose (counted : service.Counted) {left : String → Nat} {stale : List String}
    (fewer : ∀ device, left device ≤ service.count device)
    (same : ∀ device, device ∉ stale → left device = service.count device) :
    service.registry.Tracks left stale := by
  refine DeviceRegistry.Tracks.change counted (fun device busy => ?_) same
  exact counted.known device (Nat.ne_of_gt (Nat.lt_of_lt_of_le (Nat.pos_of_ne_zero busy)
    (fewer device)))

theorem Counted.drop (counted : service.Counted) {after : AllocationService}
    (keep : GpuAllocation → Bool)
    (left : ∀ device, after.list device = (service.list device).filter keep)
    {stale : List String}
    (gone : ∀ device, ∀ live ∈ service.list device, keep live = false → device ∈ stale) :
    service.registry.Tracks after.count stale := by
  refine counted.lose (fun device => ?_) fun device fresh => ?_
  · rw [count_eq_length, count_eq_length, left]
    exact List.length_filter_le _ _
  · rw [count_eq_length, count_eq_length, left, List.length_filter_eq_length_iff]
    intro live member
    exact Bool.of_not_eq_false fun dropped => fresh (gone device live member dropped)

theorem Counted.closeSession (counted : service.Counted) (allocation : GpuAllocation) :
    (service.closeSession allocation).Counted := by
  obtain ⟨_, closed⟩ := service.closeSession_frame allocation
  rw [closed]
  exact counted

theorem Counted.closeSessions (counted : service.Counted) (allocations : List GpuAllocation) :
    (allocations.foldl AllocationService.closeSession service).Counted := by
  obtain ⟨_, closed⟩ := service.closeSessions_frame allocations
  rw [closed]
  exact counted

theorem Counted.grant (counted : service.Counted) {after : AllocationService} {device : String}
    {request : AllocationRequest} {kind : AllocatorKind} {allocation : GpuAllocation}
    (grants : service.Grants after device request kind allocation)
    (entered : after.registry = (service.registry.setActive device (after.count device)).2) :
    after.Counted := by
  have place : allocation.device = device := grants.answers.device_eq
  have stale : service.registry.Tracks after.count [device] := by
    refine DeviceRegistry.Tracks.change counted (fun other busy => ?_) fun other elsewhere => ?_
    · by_cases here : other = device
      · exact here ▸ known_of_vet grants.vetted
      · rw [grants.adds.count_eq, place, if_neg here] at busy
        exact counted.known other busy
    · rw [grants.adds.count_eq, place, if_neg (by simpa using elsewhere), Nat.add_zero]
  unfold Counted
  rw [entered]
  exact stale.setActive

theorem Counted.allocate (sound : service.Sound) (counted : service.Counted) (device : String)
    (request : AllocationRequest) (clock : Clock) :
    (service.allocate device request clock).2.Counted := by
  unfold AllocationService.allocate
  rcases grant_cases sound device request clock with
    ⟨failure, refused⟩ | ⟨kind, allocation, next, granted, nextSound, grants, entered, _⟩
  · rw [refused]
    exact counted
  · rw [granted]
    dsimp only
    have nextCounted : next.Counted := counted.grant grants entered
    rcases next.complete_cases kind allocation with
      ⟨isolation, _, completed⟩ | ⟨failure, isolation, _, undone⟩
    · rw [completed]
      exact nextCounted
    · rw [undone]
      have opened : service.Grants { next with isolation } device request kind allocation :=
        grants.congr rfl rfl
      have restores := opened.restores (nextSound.congr rfl)
      refine tracks_syncCount _ ?_
      rw [restores.registry_eq, count_congr restores.liveIn_eq]
      refine nextCounted.lose (fun other => ?_) fun other elsewhere => ?_
      · rw [grants.adds.count_eq]
        exact Nat.le_add_right _ _
      · rw [grants.adds.count_eq, if_neg (by simpa using elsewhere), Nat.add_zero]

theorem Counted.allocateAuto (sound : service.Sound) (counted : service.Counted)
    (strategy : SelectionStrategy) (request : AllocationRequest) (clock : Clock) :
    (service.allocateAuto strategy request clock).2.Counted := by
  rcases service.allocateAuto_picks strategy request clock with
    ⟨failure, refused⟩ | ⟨device, selector, picked⟩
  · rw [refused]
    exact counted
  · rw [picked]
    have selected : ({ service with selector } : AllocationService).Sound := sound.congr rfl
    exact Counted.allocate selected counted device request clock

theorem Counted.release (owned : service.Owned) (counted : service.Counted) (id : String) :
    (service.release id).2.Counted := by
  rcases owned.release_cases id with ⟨_, unknown⟩ | ⟨kind, place, live, member, rfl, done⟩
  · rw [unknown]
    exact counted
  · rw [done]
    refine Counted.closeSession (tracks_syncCount _ ?_) _
    obtain ⟨_, _, _, frame⟩ := service.releaseFrom_frame kind live.id
    have kept : (service.releaseFrom kind live.id).2.registry = service.registry := by rw [frame]
    change (service.releaseFrom kind live.id).2.registry.Tracks
      (service.releaseFrom kind live.id).2.count [live.device]
    rw [kept]
    refine counted.drop (·.id ≠ live.id) (owned.list_releaseFrom member) ?_
    intro device other held same
    have here : other = live :=
      owned.eq_of_mem_list held (mem_list.mpr ⟨kind, member⟩) (by simpa using same)
    rw [← owned.sound.located_list held, here]
    exact List.mem_singleton_self live.device

theorem Counted.cleanup (sound : service.Sound) (counted : service.Counted) (now : Timestamp) :
    (service.cleanup now).2.Counted := by
  unfold AllocationService.cleanup
  dsimp only
  refine Counted.closeSessions (counted_syncCounts ?_) _
  change service.registry.Tracks (service.expireAll now).2.count _
  refine counted.drop (fun live => !live.isExpiredAt now) (list_expireAll sound now) ?_
  intro device live held expired
  have reported : { live with status := .expired } ∈
      (service.expireAll now).1.filter (·.device = device) := by
    rw [expireAll_on sound]
    exact List.mem_map_of_mem (List.mem_filter.mpr ⟨held, by simpa using expired⟩)
  obtain ⟨dropped, here⟩ := List.mem_filter.mp reported
  exact List.mem_map.mpr ⟨_, dropped, of_decide_eq_true here⟩

theorem registry_syncDevice (service : AllocationService) (device : Device) (now : Instant) :
    (service.syncDevice device now).2.registry =
      (service.registry.setActive device.descriptor.device
        ((service.syncDevice device now).2.count device.descriptor.device)).2 := by
  unfold syncDevice
  cases device.descriptor.partition with
  | some config => rfl
  | none => rfl

theorem Counted.syncDevice (counted : service.Counted) (device : Device) (now : Instant) :
    (service.syncDevice device now).2.Counted := by
  unfold Counted
  rw [registry_syncDevice, count_congr (service.liveIn_syncDevice device now)]
  exact DeviceRegistry.Tracks.setActive
    (DeviceRegistry.Tracks.change counted counted.known fun _ _ => rfl)

theorem Counted.sync (counted : service.Counted) (now : Instant) :
    (service.sync now).2.Counted := by
  unfold AllocationService.sync
  induction service.registry.list generalizing service with
  | nil => exact counted
  | cons device rest ih => exact ih (counted.syncDevice device now)

theorem Counted.refresh (counted : service.Counted) (discovery : Discovery) (clock : Clock) :
    (service.refresh discovery clock).2.Counted := by
  have refreshed := DeviceRegistry.Tracks.refreshAll counted discovery clock.wall
  unfold AllocationService.refresh
  cases found : service.registry.refreshAll discovery clock.wall with
  | mk outcome registry =>
      rw [found] at refreshed
      cases outcome with
      | error failure => exact refreshed
      | ok summary =>
          have entered : ({ service with registry } : AllocationService).Counted := refreshed
          exact entered.sync clock.monotonic

theorem Counted.rotate (counted : service.Counted) (now : Instant) :
    (service.rotate now).2.Counted := by
  have same : (service.rotate now).2.count = service.count := by
    funext device
    have names := map_list_rotate service now (·.id) (fun _ _ => rfl) device
    rw [count_eq_length, count_eq_length]
    simpa using congrArg List.length names
  unfold Counted
  rw [same]
  exact counted

theorem Counted.checkHealth (counted : service.Counted) : service.checkHealth.2.Counted := by
  obtain ⟨_, checked⟩ := service.checkHealth_frame
  rw [checked]
  exact counted

theorem Counted.perform (owned : service.Owned) (counted : service.Counted)
    {operation : Operation} (unset : ∀ device count, operation ≠ .setActive device count) :
    (service.perform operation).Counted := by
  cases operation with
  | allocate device request clock => exact counted.allocate owned.sound device request clock
  | allocateAuto strategy request clock =>
      exact counted.allocateAuto owned.sound strategy request clock
  | release id => exact counted.release owned id
  | cleanup now => exact counted.cleanup owned.sound now
  | rotate now => exact counted.rotate now
  | refresh discovery clock => exact counted.refresh discovery clock
  | sync now => exact counted.sync now
  | poll discovery now => exact DeviceRegistry.Tracks.refreshAll counted discovery now
  | refreshDevice described now => exact DeviceRegistry.Tracks.refreshDevice counted described now
  | setActive device count => exact absurd rfl (unset device count)
  | checkHealth => exact counted.checkHealth
  | setBackend backend => exact counted

theorem Counted.run (owned : service.Owned) (counted : service.Counted)
    {operations : List Operation}
    (unset : ∀ device count, Operation.setActive device count ∉ operations) :
    (service.run operations).Counted := by
  induction operations generalizing service with
  | nil => exact counted
  | cons operation rest ih =>
      refine ih (owned.perform operation) (counted.perform owned ?_) ?_
      · intro device count same
        exact unset device count (same ▸ List.mem_cons_self)
      · intro device count member
        exact unset device count (List.mem_cons_of_mem operation member)

theorem counted_new (setup : ServiceSetup) : setup.service.Counted where
  known device busy := absurd rfl busy
  exact device found stored := by cases stored

/-- As long as nobody else sets the numbers, they are right after every use of the node; the
devices that hold something are all known, and no refresh drops one of them. -/
theorem run_counted (setup : ServiceSetup) (operations : List Operation)
    (unset : ∀ device count, Operation.setActive device count ∉ operations) :
    (∀ device known, (setup.service.run operations).registry.get device = .ok known →
      known.activeAllocations = (setup.service.run operations).count device) ∧
    (∀ kind device, (setup.service.run operations).liveIn kind device ≠ [] →
      ∃ known, (setup.service.run operations).registry.get device = .ok known) ∧
    ∀ kind device discovery now, (setup.service.run operations).liveIn kind device ≠ [] →
      ∃ known, ((setup.service.run operations).registry.refreshAll discovery now).2.get device =
        .ok known := by
  have counted := (counted_new setup).run (owned_new setup) unset
  have busy (kind : AllocatorKind) (device : String)
      (held : (setup.service.run operations).liveIn kind device ≠ []) :
      (setup.service.run operations).count device ≠ 0 := by
    obtain ⟨live, member⟩ := List.exists_mem_of_ne_nil _ held
    rw [count_eq_length]
    exact List.length_pos_of_mem (mem_list.mpr ⟨kind, member⟩) |>.ne'
  refine ⟨?_, ?_, ?_⟩
  · intro device known stored
    exact counted.exact device known (DeviceRegistry.get_eq_ok.mp stored) List.not_mem_nil
  · intro kind device held
    simpa only [DeviceRegistry.get_eq_ok] using counted.known device (busy kind device held)
  · intro kind device discovery now held
    have refreshed := DeviceRegistry.Tracks.refreshAll counted discovery now
    simpa only [DeviceRegistry.get_eq_ok] using refreshed.known device (busy kind device held)

/-- A device is found and half of it is given away; then it is not found any more. -/
def busyVanished : List Operation :=
  let clock : Clock := ⟨⟨1700000000, 0⟩, ⟨0⟩⟩
  let found : DiscoveryReport :=
    { source := "scripted"
      devices := [{ device := "card0", model := "gpu", memoryTotalBytes := 8589934592 }] }
  [.refresh (.ok found) clock,
    .allocate "card0"
      { id := "a"
        isolation := .shared
        workload := { pod := "a", space := "default", container := "main" }
        fraction := 0.5
        memoryMib := 4096
        sharing := false } clock,
    .poll (.ok { source := "scripted" }) clock.wall]

theorem counted_busyVanished :
    (∀ device count, Operation.setActive device count ∉ busyVanished) ∧
      ∃ known, (({} : ServiceSetup).service.run busyVanished).registry.get "card0" = .ok known ∧
        known.activeAllocations = 1 := by
  have unset (device : String) (count : Nat) : Operation.setActive device count ∉ busyVanished := by
    simp [busyVanished]
  have held : (({} : ServiceSetup).service.run busyVanished).liveIn .fractional "card0" ≠ [] := by
    decide +kernel
  obtain ⟨counts, known, _⟩ := run_counted {} busyVanished unset
  obtain ⟨device, stored⟩ := known .fractional "card0" held
  refine ⟨unset, device, stored, (counts "card0" device stored).trans ?_⟩
  decide +kernel

end GpuSharing.AllocationService
