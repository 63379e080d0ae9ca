import GpuSharing.Proofs.Selection.Capable
import GpuSharing.Proofs.Service.Agreement

/-!
# Automatic placement

The service offers to a strategy what the serving allocators know of the devices that pass the
check for a request, and asks for an allocation on the one that is picked. Where the allocators
know the devices of the registry and the sessions start, a device that passes the check is on
offer, and nothing can fail between the pick and the grant.
-/

set_option autoImplicit false

namespace GpuSharing.AllocationService

variable {service : AllocationService} {request : AllocationRequest} {usage : DeviceUsage}
  {strategy : SelectionStrategy}

/-- What the allocator that serves a device for a request knows of its usage, if the device passes
the check. -/
structure Offers (service : AllocationService) (request : AllocationRequest)
    (usage : DeviceUsage) : Prop where
  passes : service.canAllocate usage.device request = .ok ()
  known : ∃ kind, service.route usage.device request = .ok kind ∧
    service.usageIn kind usage.device = .ok usage

theorem device_of_usageIn {kind : AllocatorKind} {device : String}
    (used : service.usageIn kind device = .ok usage) : usage.device = device := by
  cases kind with
  | fractional =>
      obtain ⟨_, _, rfl⟩ := Ledger.usage_eq_ok.mp used
      rfl
  | partitionAware =>
      obtain ⟨_, _, rfl⟩ := Ledger.usage_eq_ok.mp used
      rfl
  | timeSlicing =>
      obtain ⟨_, _, rfl⟩ := Ledger.usage_eq_ok.mp used
      rfl

theorem candidate?_eq_some {device : Device} :
    service.candidate? request device = some usage ↔
      device.isAvailable ∧ usage.device = device.descriptor.device ∧
        service.Offers request usage := by
  unfold candidate?
  dsimp only
  cases device.isAvailable with
  | false => simp
  | true =>
      simp only [↓reduceIte, Outcome.toOption_eq_some, Outcome.bind_eq_ok, true_and]
      constructor
      · rintro ⟨_, passes, kind, routed, used⟩
        have here := device_of_usageIn used
        rw [← here] at passes routed used
        exact ⟨here, passes, kind, routed, used⟩
      · rintro ⟨here, passes, kind, routed, used⟩
        rw [here] at passes routed used
        exact ⟨(), passes, kind, routed, used⟩

theorem mem_candidates (assessed : service.registry.Assessed) :
    usage ∈ service.candidates request ↔ service.Offers request usage := by
  unfold candidates
  rw [List.mem_filterMap]
  constructor
  · rintro ⟨device, _, offered⟩
    exact (candidate?_eq_some.mp offered).2.2
  · intro offers
    obtain ⟨device, stored, available⟩ :=
      requireAvailable_eq_ok.mp (canAllocate_eq_ok.mp offers.passes).1
    have listed : device ∈ service.registry.list :=
      DeviceRegistry.mem_list.mpr ⟨usage.device, stored⟩
    exact ⟨device, listed,
      candidate?_eq_some.mpr ⟨available, (assessed _ device stored).1.symm, offers⟩⟩

theorem Synced.exists_usageIn (synced : service.Synced) {kind : AllocatorKind} {device : String}
    (routed : service.route device request = .ok kind)
    (checked : service.checkIn kind device request = .ok ()) :
    ∃ usage, service.usageIn kind device = .ok usage := by
  cases kind with
  | fractional =>
      obtain ⟨_, checked, _⟩ := Outcome.bind_eq_ok.mp checked
      obtain ⟨_, _, known, _⟩ := FractionalAllocator.check_eq_ok.mp checked
      exact ⟨_, Ledger.usage_eq_ok.mpr ⟨_, known, rfl⟩⟩
  | partitionAware =>
      obtain ⟨_, checked, _⟩ := Outcome.bind_eq_ok.mp checked
      obtain ⟨_, _, known, _⟩ := PartitionAllocator.check_eq_ok.mp checked
      exact ⟨_, Ledger.usage_eq_ok.mpr ⟨_, known, rfl⟩⟩
  | timeSlicing =>
      -- The check of the scheduler passes devices that it does not know; it is told of all of them.
      obtain ⟨known, stored, _⟩ := Outcome.bind_eq_ok.mp routed
      rw [DeviceRegistry.get_eq_ok] at stored
      have undivided : known.descriptor.partition = none := by
        have divided := partition?_of_route routed
        simpa [DeviceRegistry.partition?, stored] using divided
      obtain ⟨books, told⟩ := Option.isSome_iff_exists.mp (synced device known stored undivided).2
      exact ⟨_, Ledger.usage_eq_ok.mpr ⟨books, told, rfl⟩⟩

/-- Where the allocators know the devices, none that passes the check is left out. -/
theorem Synced.exists_offers (synced : service.Synced) {device : String}
    (passes : service.canAllocate device request = .ok ()) :
    ∃ usage, usage.device = device ∧ service.Offers request usage := by
  obtain ⟨_, kind, routed, _, checked⟩ := canAllocate_eq_ok.mp passes
  obtain ⟨usage, used⟩ := synced.exists_usageIn routed checked
  obtain rfl := device_of_usageIn used
  exact ⟨usage, rfl, passes, kind, routed, used⟩

theorem allocateAuto_chooses (assessed : service.registry.Assessed)
    (strategy : SelectionStrategy) (request : AllocationRequest) (clock : Clock) :
    ((∀ usage, ¬service.Offers request usage) ∧ service.allocateAuto strategy request clock =
      (refuse (noDeviceFor "no available device" request), service)) ∨
    ∃ chosen selector,
      strategy.Chooses service.selector.lastPick (service.Offers request) chosen ∧
        service.allocateAuto strategy request clock =
          { service with selector }.allocate chosen.device request clock := by
  unfold allocateAuto
  dsimp only
  cases answered : service.selector.choose strategy (service.candidates request)
      (noDeviceFor "no available device" request) with
  | mk outcome selector =>
      have outcome_eq := congrArg Prod.fst answered
      cases outcome with
      | error failure =>
          obtain ⟨empty, rfl⟩ := Selector.choose_eq_error.mp outcome_eq
          refine .inl ⟨fun usage offers => ?_, rfl⟩
          rw [← mem_candidates assessed, empty] at offers
          cases offers
      | ok device =>
          obtain ⟨chosen, picked, rfl⟩ := Selector.choose_eq_ok.mp outcome_eq
          exact .inr ⟨chosen, selector, (Selector.chooses_of_pick picked).congr
            fun usage => (mem_candidates assessed).symm, rfl⟩

/-- A request was granted on the device that the strategy chooses among those of the registry that
pass the check, or turned down without a trace because there are none. -/
structure Places (service : AllocationService) (strategy : SelectionStrategy)
    (request : AllocationRequest) (result : Outcome GpuAllocation × AllocationService) : Prop where
  granted_iff : (∃ allocation, result.1 = .ok allocation) ↔
    ∃ device ∈ service.registry.devices.keys, service.canAllocate device request = .ok ()
  placed : ∀ allocation, result.1 = .ok allocation → ∃ chosen,
    strategy.Chooses service.selector.lastPick (service.Offers request) chosen ∧
      allocation.Answers chosen.device request
  refused : ∀ failure, result.1 = .error failure →
    result = (refuse (noDeviceFor "no available device" request), service)

theorem places_allocateAuto (sound : service.Sound) (counted : service.Counted)
    (assessed : service.registry.Assessed) (synced : service.Synced)
    (starts : service.SessionsStart) (unused : service.owners.get? request.id = none)
    (strategy : SelectionStrategy) (clock : Clock) :
    service.Places strategy request (service.allocateAuto strategy request clock) := by
  rcases service.allocateAuto_chooses assessed strategy request clock with
    ⟨empty, refused⟩ | ⟨chosen, selector, chooses, asked⟩
  · rw [refused]
    refine ⟨iff_of_false nofun ?_, nofun, fun _ _ => rfl⟩
    rintro ⟨device, _, passes⟩
    obtain ⟨usage, _, offers⟩ := synced.exists_offers passes
    exact empty usage offers
  · have selected : ({ service with selector } : AllocationService).Sound := sound.congr rfl
    have passes := chooses.offered.passes
    have granted : ∃ allocation, ({ service with selector }.allocate chosen.device request
        clock).1 = .ok allocation :=
      (allocate_isOk_iff_of_sessionsStart selected counted assessed starts).mpr ⟨passes, unused⟩
    obtain ⟨known, stored, _⟩ := requireAvailable_eq_ok.mp (canAllocate_eq_ok.mp passes).1
    rw [asked]
    constructor
    case granted_iff =>
      exact iff_of_true granted ⟨chosen.device, Keyed.mem_keys.mpr ⟨known, stored⟩, passes⟩
    case placed =>
      intro allocation done
      refine ⟨chosen, chooses, ?_⟩
      obtain ⟨_, ⟨failure, refused, _⟩ | ⟨_, _, same, grants⟩⟩ :=
        allocate_cases selected chosen.device request clock
      · cases done.symm.trans refused
      · cases done.symm.trans same
        exact grants.answers
    case refused =>
      intro failure failed
      obtain ⟨_, done⟩ := granted
      cases failed.symm.trans done

/-- On a node whose devices are synced and whose sessions start, a request under a new name is
granted if and only if any device of the registry passes the check for it, on the one that the
strategy chooses among these. A request that is not granted leaves no trace, not even in the
rotation. -/
theorem run_places (setup : ServiceSetup) (operations : List Operation)
    (unset : ∀ device count, Operation.setActive device count ∉ operations)
    (synced : (setup.service.run operations).Synced)
    (starts : (setup.service.run operations).SessionsStart) (request : AllocationRequest)
    (unnamed : ∀ kind device, request.id ∉ (setup.service.run operations).namesIn kind device)
    (strategy : SelectionStrategy) (clock : Clock) :
    (setup.service.run operations).Places strategy request
      ((setup.service.run operations).allocateAuto strategy request clock) := by
  have owned : (setup.service.run operations).Owned := (owned_new setup).run operations
  have counted : (setup.service.run operations).Counted :=
    (counted_new setup).run (owned_new setup) unset
  refine places_allocateAuto owned.sound counted (assessed_run setup operations) synced starts ?_
    strategy clock
  refine Option.eq_none_iff_forall_ne_some.mpr fun kind held => ?_
  obtain ⟨device, live⟩ := (owned.owned request.id kind).mp held
  exact unnamed kind device live

/-- A node with a server that starts every session. -/
def served : ServiceSetup where
  backend := some { start := fun _ => .ok (), stop := fun _ => .ok (), health := fun _ => .ok true }

def twoReported : List Operation := [.refresh (reportOf ["card0", "card1"]) firstSecond]

theorem run_twoReported : served.service.run twoReported =
    (({ served.service with
      registry := (served.service.registry.refreshAll (reportOf ["card0", "card1"])
        firstSecond.wall).2 } : AllocationService).syncEach firstSecond.monotonic
          (served.service.registry.refreshAll (reportOf ["card0", "card1"])
            firstSecond.wall).2.devices.values).2 := by
  refine refresh_of_ordered _ _ ?_
  decide +kernel

theorem placed_twoReported :
    (∀ device count, Operation.setActive device count ∉ twoReported) ∧
      (served.service.run twoReported).Synced ∧
      (served.service.run twoReported).SessionsStart ∧
      (∀ kind device, "a" ∉ (served.service.run twoReported).namesIn kind device) ∧
      ∃ allocation, ((served.service.run twoReported).allocateAuto .bestFit (halfFor "a" .process)
        firstSecond).1 = .ok allocation := by
  have unset (device : String) (count : Nat) : Operation.setActive device count ∉ twoReported := by
    simp [twoReported]
  have synced : (served.service.run twoReported).Synced :=
    (synced_new served).run (assessed_run served []) (by simp [twoReported])
      (by simp [twoReported])
  have starts : (served.service.run twoReported).SessionsStart := by
    intro sessions present device
    obtain ⟨_, _, _, _, same⟩ :=
      served.service.refresh_frame (reportOf ["card0", "card1"]) firstSecond
    cases (congrArg isolation same).symm.trans present
    rfl
  have unnamed (kind : AllocatorKind) (device : String) :
      "a" ∉ (served.service.run twoReported).namesIn kind device := by
    intro live
    change "a" ∈ ((served.service.refresh _ _).2.liveIn kind device).map (·.id) at live
    rw [liveIn_refresh] at live
    cases kind with
    | fractional | partitionAware | timeSlicing => cases live
  refine ⟨unset, synced, starts, unnamed, ?_⟩
  refine (run_places served twoReported unset synced starts (halfFor "a" .process) unnamed .bestFit
    firstSecond).granted_iff.mpr ⟨"card0", ?_⟩
  rw [run_twoReported]
  decide +kernel

end GpuSharing.AllocationService
