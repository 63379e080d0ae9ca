import GpuSharing.Proofs.Service.Run

/-!
# Whose allocation it is

The service keeps an index from names to allocators, and each allocator one from names
to devices. Both name exactly what is live, and each live name once, so what the service
looks up is there.
-/

set_option autoImplicit false

namespace GpuSharing.AllocationService

/-- The names that are live on a device in one allocator. -/
def namesIn (service : AllocationService) (kind : AllocatorKind) (device : String) :
    List String :=
  (service.liveIn kind device).map (·.id)

/-- The device under which an allocator files a name. -/
def placeIn (service : AllocationService) : AllocatorKind → String → Option String
  | .fractional, id => service.fractional.ledger.owners.get? id
  | .partitionAware, id => service.partitioned.ledger.owners.get? id
  | .timeSlicing, id => service.scheduler.ledger.owners.get? id

/-- The indexes of the service and of its allocators name exactly what is live, and no
name is live twice. -/
structure Indexed (service : AllocationService) : Prop where
  owned : ∀ id kind,
    service.owners.get? id = some kind ↔ ∃ device, id ∈ service.namesIn kind device
  placed : ∀ id kind device,
    service.placeIn kind id = some device ↔ id ∈ service.namesIn kind device
  distinct : ∀ kind device, (service.namesIn kind device).Nodup
  single : ∀ id kind device other place, id ∈ service.namesIn kind device →
    id ∈ service.namesIn other place → kind = other ∧ device = place

/-- What is found under a name, and what a release of it gives, is what lives under it;
the allocators are only asked for what they hold, and a refused release changes nothing. -/
structure FindsLive (service : AllocationService) : Prop where
  get : ∀ id found, service.get id = .ok found ↔
    found.id = id ∧ ∃ kind device, found ∈ service.liveIn kind device
  release : ∀ id released, (service.release id).1 = .ok released ↔
    ∃ kind device, ∃ live ∈ service.liveIn kind device,
      live.id = id ∧ { live with status := .completed } = released
  holder : ∀ id kind, service.owners.get? id = some kind →
    (∃ live, service.getFrom kind id = .ok live) ∧
      ∃ released, (service.releaseFrom kind id).1 = .ok released
  refusal : ∀ id failure, (service.release id).1 = .error failure →
    service.owners.get? id = none ∧
      service.release id = (refuse (.notFound .allocation id), service)

section Sound

variable {service : AllocationService}

theorem Sound.placed (sound : service.Sound) (id : String) (kind : AllocatorKind)
    (device : String) :
    service.placeIn kind id = some device ↔ id ∈ service.namesIn kind device := by
  cases kind with
  | fractional => exact sound.fractional.coherent.indexed id device
  | partitionAware => exact sound.partitioned.coherent.indexed id device
  | timeSlicing => exact sound.scheduler.coherent.indexed id device

theorem getFrom_eq_ok (sound : service.Sound) {kind : AllocatorKind} {device : String}
    {live : GpuAllocation} (member : live ∈ service.liveIn kind device) :
    service.getFrom kind live.id = .ok live := by
  cases kind with
  | fractional => exact Ledger.get_eq_ok sound.fractional.coherent member
  | partitionAware => exact Ledger.get_eq_ok sound.partitioned.coherent member
  | timeSlicing => exact Ledger.get_eq_ok sound.scheduler.coherent member

theorem releaseFrom_eq_ok (sound : service.Sound) {kind : AllocatorKind} {device : String}
    {live : GpuAllocation} (member : live ∈ service.liveIn kind device) :
    (service.releaseFrom kind live.id).1 = .ok { live with status := .completed } := by
  cases kind with
  | fractional => exact Ledger.release_eq_ok sound.fractional.coherent member
  | partitionAware => exact Ledger.release_eq_ok sound.partitioned.coherent member
  | timeSlicing => exact Ledger.release_eq_ok sound.scheduler.coherent member

theorem id_mem_expireAll (sound : service.Sound) {now : Timestamp} {id : String} :
    id ∈ (service.expireAll now).1.map (·.id) ↔
      ∃ kind device, ∃ live ∈ service.liveIn kind device, live.isExpiredAt now ∧ live.id = id := by
  change id ∈ ((service.fractional.ledger.expire now).1 ++
    (service.partitioned.ledger.expire now).1 ++
    (service.scheduler.ledger.expire now).1).map (·.id) ↔ _
  simp only [List.map_append, List.mem_append, Ledger.id_mem_expire sound.fractional.coherent,
    Ledger.id_mem_expire sound.partitioned.coherent, Ledger.id_mem_expire sound.scheduler.coherent]
  constructor
  · rintro ((shared | divided) | sliced)
    · exact ⟨.fractional, shared⟩
    · exact ⟨.partitionAware, divided⟩
    · exact ⟨.timeSlicing, sliced⟩
  · rintro ⟨kind, held⟩
    cases kind with
    | fractional => exact .inl (.inl held)
    | partitionAware => exact .inl (.inr held)
    | timeSlicing => exact .inr held

end Sound

/-- A service whose own index is right, over allocators that are sound. -/
structure Owned (service : AllocationService) : Prop where
  sound : service.Sound
  owned : ∀ id kind,
    service.owners.get? id = some kind ↔ ∃ device, id ∈ service.namesIn kind device

section Lookups

variable {service : AllocationService} (owned : service.Owned)

include owned

theorem Owned.indexed : service.Indexed where
  owned := owned.owned
  placed := owned.sound.placed
  distinct := owned.sound.nodup
  single := by
    intro id kind device other place here there
    have sameKind : kind = other := Option.some.inj
      (((owned.owned id kind).mpr ⟨device, here⟩).symm.trans
        ((owned.owned id other).mpr ⟨place, there⟩))
    subst sameKind
    have samePlace : device = place := Option.some.inj
      (((owned.sound.placed id kind device).mpr here).symm.trans
        ((owned.sound.placed id kind place).mpr there))
    exact ⟨rfl, samePlace⟩

/-- Allocations that live under one name are the same. -/
theorem Owned.eq_of_id_eq {kind other : AllocatorKind} {device place : String}
    {first second : GpuAllocation} (here : first ∈ service.liveIn kind device)
    (there : second ∈ service.liveIn other place) (same : first.id = second.id) :
    first = second := by
  obtain ⟨rfl, rfl⟩ := owned.indexed.single first.id kind device other place
    (List.mem_map_of_mem here) (same ▸ List.mem_map_of_mem there)
  exact GpuSharing.eq_of_id_eq (owned.sound.nodup kind device) here there same

theorem Owned.eq_of_mem_list {device place : String} {first second : GpuAllocation}
    (here : first ∈ service.list device) (there : second ∈ service.list place)
    (same : first.id = second.id) : first = second := by
  obtain ⟨_, here⟩ := mem_list.mp here
  obtain ⟨_, there⟩ := mem_list.mp there
  exact owned.eq_of_id_eq here there same

theorem Owned.nodup_list (device : String) : ((service.list device).map (·.id)).Nodup := by
  have apart {kind other : AllocatorKind} (differs : kind ≠ other) :
      ∀ id ∈ service.namesIn kind device, ∀ name ∈ service.namesIn other device, id ≠ name := by
    intro id here name there same
    subst same
    exact differs (owned.indexed.single id kind device other device here there).1
  simp only [list_eq, List.map_append]
  refine List.nodup_append.mpr ⟨owned.sound.nodup .fractional device,
    List.nodup_append.mpr ⟨owned.sound.nodup .partitionAware device,
      owned.sound.nodup .timeSlicing device, apart (by decide)⟩, ?_⟩
  intro id here name there
  rcases List.mem_append.mp there with divided | sliced
  · exact apart (by decide) id here name divided
  · exact apart (by decide) id here name sliced

theorem Owned.owner {kind : AllocatorKind} {device : String} {live : GpuAllocation}
    (member : live ∈ service.liveIn kind device) : service.owners.get? live.id = some kind :=
  (owned.owned live.id kind).mpr ⟨device, List.mem_map_of_mem member⟩

/-- A release takes one allocation off one list, since its name lives only there. -/
theorem Owned.list_releaseFrom {kind : AllocatorKind} {place : String} {live : GpuAllocation}
    (member : live ∈ service.liveIn kind place) (device : String) :
    (service.releaseFrom kind live.id).2.list device =
      (service.list device).filter (·.id ≠ live.id) := by
  have own (other : AllocatorKind) : (service.releaseFrom kind live.id).2.liveIn other device =
      (service.liveIn other device).filter (·.id ≠ live.id) := by
    rw [liveIn_releaseFrom owned.sound]
    split
    · rfl
    · rename_i differs
      refine (List.filter_eq_self.mpr fun found held => ?_).symm
      refine decide_eq_true fun same => differs ?_
      exact (owned.indexed.single live.id other device kind place
        (same ▸ List.mem_map_of_mem held) (List.mem_map_of_mem member)).1
  simp only [list_eq, List.filter_append, own]

theorem Owned.holder {id : String} {kind : AllocatorKind}
    (owner : service.owners.get? id = some kind) :
    ∃ device, ∃ live ∈ service.liveIn kind device, live.id = id := by
  obtain ⟨device, named⟩ := (owned.owned id kind).mp owner
  exact ⟨device, List.mem_map.mp named⟩

/-- A release never gets past the index only to fail in the allocator. -/
theorem Owned.release_cases (id : String) :
    (service.owners.get? id = none ∧
      service.release id = (refuse (.notFound .allocation id), service)) ∨
    ∃ kind device, ∃ live ∈ service.liveIn kind device, live.id = id ∧
      service.release id = (.ok { live with status := .completed },
        ({ (service.releaseFrom kind id).2 with
          owners := service.owners.erase id }.syncCount live.device).closeSession
            { live with status := .completed }) := by
  rcases service.release_cases id with unknown | ⟨kind, owner, outcome⟩
  · exact .inl unknown
  · obtain ⟨device, live, member, rfl⟩ := owned.holder owner
    have succeeds := releaseFrom_eq_ok owned.sound member
    rcases outcome with ⟨failure, failed, _⟩ | ⟨released, answer, done⟩
    · rw [succeeds] at failed
      cases failed
    · rw [succeeds, Except.ok.injEq] at answer
      subst answer
      exact .inr ⟨kind, device, live, member, rfl, done⟩

theorem Owned.get_eq_ok {id : String} {found : GpuAllocation} : service.get id = .ok found ↔
    found.id = id ∧ ∃ kind device, found ∈ service.liveIn kind device := by
  constructor
  · intro answer
    unfold AllocationService.get at answer
    cases owner : service.owners.get? id with
    | none => simp [owner, refuse] at answer
    | some kind =>
        obtain ⟨device, live, member, rfl⟩ := owned.holder owner
        rw [owner] at answer
        dsimp only at answer
        rw [getFrom_eq_ok owned.sound member, Except.ok.injEq] at answer
        exact answer ▸ ⟨rfl, kind, device, member⟩
  · rintro ⟨rfl, kind, device, member⟩
    unfold AllocationService.get
    rw [owned.owner member]
    exact getFrom_eq_ok owned.sound member

theorem Owned.release_eq_ok {id : String} {released : GpuAllocation} :
    (service.release id).1 = .ok released ↔ ∃ kind device, ∃ live ∈ service.liveIn kind device,
      live.id = id ∧ { live with status := .completed } = released := by
  rcases owned.release_cases id with
    ⟨unused, unknown⟩ | ⟨kind, device, live, member, named, done⟩
  · rw [unknown]
    constructor
    · intro refused
      cases refused
    · rintro ⟨kind, device, live, member, rfl, _⟩
      rw [owned.owner member] at unused
      cases unused
  · rw [done, Except.ok.injEq]
    constructor
    · intro same
      exact ⟨kind, device, live, member, named, same⟩
    · rintro ⟨_, _, other, held, otherNamed, rfl⟩
      rw [owned.eq_of_id_eq member held (named.trans otherNamed.symm)]

theorem Owned.findsLive : service.FindsLive where
  get _ _ := owned.get_eq_ok
  release _ _ := owned.release_eq_ok
  holder id kind owner := by
    obtain ⟨device, live, member, rfl⟩ := owned.holder owner
    exact ⟨⟨live, getFrom_eq_ok owned.sound member⟩, _, releaseFrom_eq_ok owned.sound member⟩
  refusal id failure refused := by
    rcases owned.release_cases id with unknown | ⟨_, _, live, _, _, done⟩
    · exact unknown
    · rw [done] at refused
      cases refused

end Lookups

section Steps

variable {service : AllocationService}

theorem owned_new (setup : ServiceSetup) : setup.service.Owned where
  sound := sound_new setup
  owned id kind := by cases kind <;> simp [ServiceSetup.service, namesIn, liveIn, Ledger.liveOn]

/-- Only the names that are live matter to the index. -/
theorem Owned.of_same_names {after : AllocationService} (owned : service.Owned)
    (sound : after.Sound) (names : after.namesIn = service.namesIn)
    (owners : after.owners = service.owners) : after.Owned :=
  ⟨sound, by rw [names, owners]; exact owned.owned⟩

theorem namesIn_congr {after : AllocationService} (same : after.liveIn = service.liveIn) :
    after.namesIn = service.namesIn := by
  unfold namesIn
  rw [same]

theorem Owned.grant {after : AllocationService} (owned : service.Owned) (sound : after.Sound)
    {device : String} {request : AllocationRequest} {kind : AllocatorKind}
    {allocation : GpuAllocation} (grants : service.Grants after device request kind allocation) :
    after.Owned := by
  have unused := grants.unused
  have names (id : String) (other : AllocatorKind) (place : String) :
      id ∈ after.namesIn other place ↔ id ∈ service.namesIn other place ∨
        (other = kind ∧ place = allocation.device) ∧ id = allocation.id := by
    unfold namesIn
    rw [grants.adds.liveIn_eq]
    split
    · rename_i here
      simp [here]
    · rename_i elsewhere
      simp [elsewhere]
  refine ⟨sound, fun id other => ?_⟩
  rw [grants.owners_eq, Keyed.get?_insert]
  simp only [names]
  by_cases new : id = allocation.id
  · -- The name was free, so it lives only where it was granted.
    have absent (place : String) : id ∉ service.namesIn other place := fun member => by
      rw [← new, (owned.owned id other).mpr ⟨place, member⟩] at unused
      cases unused
    simp [new ▸ absent, new, eq_comm]
  · simp [new, owned.owned id other]

/-- Names may go if they leave the allocators and the index together. -/
theorem Owned.withdraw {after : AllocationService} (owned : service.Owned) (sound : after.Sound)
    (gone : String → Prop)
    (names : ∀ id kind device,
      id ∈ after.namesIn kind device ↔ id ∈ service.namesIn kind device ∧ ¬gone id)
    (owners : ∀ id kind,
      after.owners.get? id = some kind ↔ service.owners.get? id = some kind ∧ ¬gone id) :
    after.Owned := by
  refine ⟨sound, fun id kind => ?_⟩
  rw [owners, owned.owned]
  simp only [names, exists_and_right]

theorem Owned.release (owned : service.Owned) (id : String) : (service.release id).2.Owned := by
  rcases owned.release_cases id with
    ⟨_, unknown⟩ | ⟨kind, device, live, member, rfl, done⟩
  · rw [unknown]
    exact owned
  · obtain ⟨isolation, closed⟩ := closeSession_frame
      ({ (service.releaseFrom kind live.id).2 with
        owners := service.owners.erase live.id }.syncCount live.device)
      { live with status := .completed }
    rw [done, closed]
    refine owned.withdraw ((owned.sound.releaseFrom kind live.id).congr rfl) (· = live.id) ?_ ?_
    · intro id other place
      change id ∈ ((service.releaseFrom kind live.id).2.liveIn other place).map (·.id) ↔ _
      rw [liveIn_releaseFrom owned.sound]
      split
      · exact id_mem_filter_ne
      · -- No other allocator holds the name.
        rename_i differs
        refine ⟨fun named => ⟨named, ?_⟩, And.left⟩
        rintro rfl
        exact differs (owned.indexed.single live.id other place kind device named
          (List.mem_map_of_mem member)).1
    · intro id other
      change (service.owners.erase live.id).get? id = some other ↔ _
      rw [Keyed.get?_erase]
      split
      · simp [*]
      · simp [*]

theorem Owned.cleanup (owned : service.Owned) (now : Timestamp) :
    (service.cleanup now).2.Owned := by
  obtain ⟨registry, isolation, done⟩ := service.cleanup_frame now
  rw [done]
  refine owned.withdraw ((owned.sound.expireAll now).congr rfl)
    (· ∈ (service.expireAll now).1.map (·.id)) ?_ ?_
  · intro id kind device
    change id ∈ ((service.expireAll now).2.liveIn kind device).map (·.id) ↔ _
    rw [liveIn_expireAll owned.sound, id_mem_expireAll owned.sound]
    constructor
    · intro named
      obtain ⟨live, kept, rfl⟩ := List.mem_map.mp named
      obtain ⟨member, fresh⟩ := List.mem_filter.mp kept
      refine ⟨List.mem_map_of_mem member, ?_⟩
      rintro ⟨_, _, expired, held, past, same⟩
      rw [owned.eq_of_id_eq held member same] at past
      simp [past] at fresh
    · rintro ⟨named, kept⟩
      obtain ⟨live, member, rfl⟩ := List.mem_map.mp named
      refine List.mem_map_of_mem (List.mem_filter.mpr ⟨member, ?_⟩)
      cases past : live.isExpiredAt now with
      | true => exact absurd ⟨kind, device, live, member, past, rfl⟩ kept
      | false => rfl
  · intro id kind
    dsimp only
    rw [Keyed.get?_foldl_erase service.owners (fun expired : GpuAllocation => expired.id)]
    split
    · simp [*]
    · simp [*]

theorem Owned.perform (owned : service.Owned) (operation : Operation) :
    (service.perform operation).Owned := by
  have sound := owned.sound.perform operation
  cases operation with
  | allocate device request clock =>
      obtain ⟨_, ⟨_, _, same, owners⟩ | ⟨kind, allocation, _, grants⟩⟩ :=
        allocate_cases owned.sound device request clock
      · exact owned.of_same_names sound (namesIn_congr same) owners
      · exact owned.grant sound grants
  | allocateAuto strategy request clock =>
      obtain ⟨_, ⟨_, _, same, owners⟩ | ⟨device, kind, allocation, _, grants⟩⟩ :=
        allocateAuto_cases owned.sound strategy request clock
      · exact owned.of_same_names sound (namesIn_congr same) owners
      · exact owned.grant sound grants
  | release id => exact owned.release id
  | cleanup now => exact owned.cleanup now
  | rotate now =>
      refine owned.of_same_names sound ?_ rfl
      funext kind device
      exact map_liveIn_rotate service now (·.id) (fun _ _ => rfl) kind device
  | refresh discovery clock =>
      obtain ⟨_, _, _, _, refreshed⟩ := service.refresh_frame discovery clock
      refine owned.of_same_names sound (namesIn_congr (service.liveIn_refresh discovery clock)) ?_
      exact (congrArg AllocationService.owners refreshed).trans rfl
  | sync now =>
      obtain ⟨_, _, _, _, synced⟩ := service.sync_frame now
      refine owned.of_same_names sound (namesIn_congr (service.liveIn_sync now)) ?_
      exact (congrArg AllocationService.owners synced).trans rfl
  | checkHealth =>
      obtain ⟨isolation, checked⟩ := service.checkHealth_frame
      refine owned.of_same_names sound (namesIn_congr ?_) ?_
      · exact liveIn_congr service.allocators_checkHealth
      · exact (congrArg AllocationService.owners checked).trans rfl
  | poll | refreshDevice | setActive | setBackend => exact owned.of_same_names sound rfl rfl

theorem Owned.run (owned : service.Owned) (operations : List Operation) :
    (service.run operations).Owned :=
  run_keeps Owned (fun _ operation owned => owned.perform operation) owned operations

end Steps

/-- However a node has been used, its indexes are right and lead to what is live. -/
theorem run_indexed (setup : ServiceSetup) (operations : List Operation) :
    (setup.service.run operations).Indexed ∧ (setup.service.run operations).FindsLive := by
  have owned := (owned_new setup).run operations
  exact ⟨owned.indexed, owned.findsLive⟩

end GpuSharing.AllocationService
