import GpuSharing.Registry

/-!
# What a registry remembers

A registry keeps the number of allocations of each device. It drops a device by that
number, and enters a device that it does not know with none. Both are right exactly
because the number is: what it keeps agrees with what lives on the devices.
-/

set_option autoImplicit false

namespace GpuSharing

namespace DeviceRegistry

/-- Every device on which something lives is known, and the number that is kept of a device
is how much lives on it, some devices apart. -/
structure Tracks (registry : DeviceRegistry) (count : String → Nat) (stale : List String) :
    Prop where
  known : ∀ device, count device ≠ 0 → ∃ found, registry.devices.get? device = some found
  exact : ∀ device found, registry.devices.get? device = some found → device ∉ stale →
    found.activeAllocations = count device

variable {registry : DeviceRegistry} {count : String → Nat}

theorem get_eq_ok {id : String} {device : Device} :
    registry.get id = .ok device ↔ registry.devices.get? id = some device := by
  unfold get
  cases registry.devices.get? id with
  | none => simp [refuse]
  | some found => simp

theorem mem_list {device : Device} :
    device ∈ registry.list ↔ ∃ id, registry.devices.get? id = some device :=
  List.mem_mergeSort.trans Keyed.mem_values

theorem Tracks.count_eq_zero {stale : List String} (tracks : registry.Tracks count stale)
    {device : String} (unknown : registry.devices.get? device = none) : count device = 0 := by
  refine Decidable.byContradiction fun busy => ?_
  obtain ⟨found, known⟩ := tracks.known device busy
  rw [unknown] at known
  cases known

theorem Tracks.congr {stale : List String} (tracks : registry.Tracks count stale)
    {other : DeviceRegistry} (same : other.devices = registry.devices) :
    other.Tracks count stale :=
  ⟨same ▸ tracks.known, same ▸ tracks.exact⟩

/-- Where only stale devices have changed, and none came to life that is not known, the
registry still tracks the rest. -/
theorem Tracks.change (tracks : registry.Tracks count []) {changed : String → Nat}
    {stale : List String}
    (known : ∀ device, changed device ≠ 0 →
      ∃ found, registry.devices.get? device = some found)
    (same : ∀ device, device ∉ stale → changed device = count device) :
    registry.Tracks changed stale where
  known := known
  exact device found stored fresh := by
    rw [same device fresh]
    exact tracks.exact device found stored List.not_mem_nil

theorem get?_setActive (registry : DeviceRegistry) (id : String) (count : Nat)
    (device : String) :
    (registry.setActive id count).2.devices.get? device =
      if device = id then (registry.devices.get? id).map fun known =>
        { known with activeAllocations := count }.recompute registry.config
      else registry.devices.get? device := by
  unfold setActive get
  cases known : registry.devices.get? id with
  | none =>
      by_cases here : device = id
      · simp [refuse, here, known]
      · simp [refuse, here]
  | some found => simp [Keyed.get?_insert]

theorem Tracks.setActive {stale : List String} {device : String}
    (tracks : registry.Tracks count (device :: stale)) :
    (registry.setActive device (count device)).2.Tracks count stale := by
  constructor
  · intro other busy
    obtain ⟨found, known⟩ := tracks.known other busy
    rw [get?_setActive]
    by_cases here : other = device
    · subst here
      simp [known]
    · simp [here, known]
  · intro other found stored fresh
    rw [get?_setActive] at stored
    by_cases here : other = device
    · subst here
      rw [if_pos rfl, Option.map_eq_some_iff] at stored
      obtain ⟨_, _, rfl⟩ := stored
      rfl
    · rw [if_neg here] at stored
      exact tracks.exact other found stored (by simp [here, fresh])

theorem Tracks.upsert (tracks : registry.Tracks count []) (descriptor : DeviceDescriptor)
    (now : Timestamp) : (registry.upsert descriptor now).2.Tracks count [] := by
  unfold DeviceRegistry.upsert
  constructor
  · intro device busy
    obtain ⟨found, known⟩ := tracks.known device busy
    rw [Keyed.get?_insert]
    by_cases here : device = descriptor.device
    · simp [here]
    · simp [here, known]
  · intro device found stored _
    rw [Keyed.get?_insert] at stored
    by_cases here : device = descriptor.device
    · subst here
      rw [if_pos rfl, Option.some.injEq] at stored
      subst stored
      dsimp only [Device.recompute]
      cases earlier : registry.devices.get? descriptor.device with
      | none => exact (tracks.count_eq_zero earlier).symm
      | some known => exact tracks.exact _ known earlier List.not_mem_nil
    · rw [if_neg here] at stored
      exact tracks.exact device found stored List.not_mem_nil

theorem Tracks.upsertAll (tracks : registry.Tracks count []) (now : Timestamp)
    (descriptors : List DeviceDescriptor) :
    (registry.upsertAll now descriptors).2.Tracks count [] := by
  induction descriptors generalizing registry with
  | nil => exact tracks
  | cons descriptor rest ih => exact ih (tracks.upsert descriptor now)

/-- A device goes only if nothing lives on it. -/
theorem Tracks.vanish (tracks : registry.Tracks count []) (seen : List String) :
    (registry.vanish seen).2.Tracks count [] := by
  unfold DeviceRegistry.vanish
  constructor
  · intro device busy
    obtain ⟨found, known⟩ := tracks.known device busy
    have live : found.activeAllocations ≠ 0 := by
      rw [tracks.exact device found known List.not_mem_nil]
      exact busy
    simp [Keyed.get?_mapKeyed, Keyed.get?_filter, known, live, Option.filter]
  · intro device found stored _
    simp only [Keyed.get?_mapKeyed, Keyed.get?_filter, Option.map_eq_some_iff,
      Option.filter_eq_some_iff] at stored
    obtain ⟨earlier, ⟨known, _⟩, rfl⟩ := stored
    rw [← tracks.exact device earlier known List.not_mem_nil]
    split
    · rfl
    · rfl

theorem Tracks.refreshAll (tracks : registry.Tracks count []) (discovery : Discovery)
    (now : Timestamp) : (registry.refreshAll discovery now).2.Tracks count [] := by
  unfold DeviceRegistry.refreshAll
  cases discovery with
  | error error => exact tracks
  | ok report => exact ((tracks.upsertAll now report.devices).vanish _).congr rfl

theorem Tracks.refreshDevice (tracks : registry.Tracks count [])
    (described : Except DiscoveryError DeviceDescriptor) (now : Timestamp) :
    (registry.refreshDevice described now).2.Tracks count [] := by
  unfold DeviceRegistry.refreshDevice
  cases described with
  | error error => exact tracks
  | ok descriptor => exact tracks.upsert descriptor now

section Descriptions

def described? (registry : DeviceRegistry) (device : String) : Option DeviceDescriptor :=
  (registry.devices.get? device).map (·.descriptor)

theorem described?_of_get? {device : String} {known : Device}
    (stored : registry.devices.get? device = some known) :
    registry.described? device = some known.descriptor := by
  rw [described?, stored, Option.map_some]

theorem described?_setActive (registry : DeviceRegistry) (id : String) (count : Nat) :
    (registry.setActive id count).2.described? = registry.described? := by
  funext device
  unfold described?
  rw [get?_setActive]
  split
  · rename_i here
    rw [here, Option.map_map]
    rfl
  · rfl

theorem described?_upsert (registry : DeviceRegistry) (descriptor : DeviceDescriptor)
    (now : Timestamp) (device : String) :
    (registry.upsert descriptor now).2.described? device =
      if device = descriptor.device then some descriptor else registry.described? device := by
  unfold described? upsert
  rw [Keyed.get?_insert]
  split
  · rfl
  · rfl

/-- A device that a report does not name is as it was described, if it stays. -/
theorem described?_vanish {seen : List String} {device : String} {descriptor : DeviceDescriptor}
    (left : (registry.vanish seen).2.described? device = some descriptor) :
    registry.described? device = some descriptor := by
  unfold described? vanish at left
  simp only [Keyed.get?_mapKeyed, Keyed.get?_filter, Option.map_map] at left
  obtain ⟨known, stayed, rfl⟩ := Option.map_eq_some_iff.mp left
  refine Option.map_eq_some_iff.mpr ⟨known, (Option.filter_eq_some_iff.mp stayed).1, ?_⟩
  dsimp only [Function.comp_apply]
  split
  · rfl
  · rfl

end Descriptions

section Listeners

/-- A listener is there that has not left. -/
def Listens (registry : DeviceRegistry) (id : Nat) : Prop :=
  ∃ listener ∈ registry.subscriptions, listener.id = id ∧ listener.closed = false

theorem listens_subscribe (registry : DeviceRegistry) :
    registry.subscribe.2.Listens registry.subscribe.1 :=
  ⟨_, List.mem_append_right registry.subscriptions List.mem_cons_self, rfl, rfl⟩

theorem subscriptions_setActive (registry : DeviceRegistry) (id : String) (count : Nat) :
    (registry.setActive id count).2.subscriptions = registry.subscriptions := by
  unfold setActive
  cases registry.get id with
  | error failure => rfl
  | ok device => rfl

variable {id : Nat}

theorem Listens.congr (listens : registry.Listens id) {other : DeviceRegistry}
    (same : other.subscriptions = registry.subscriptions) : other.Listens id := by
  unfold Listens
  rw [same]
  exact listens

theorem receive_congr {other : DeviceRegistry}
    (same : other.subscriptions = registry.subscriptions) :
    (other.receive id).1 = (registry.receive id).1 := by
  unfold DeviceRegistry.receive
  rw [same]

theorem Listens.notify (listens : registry.Listens id) : registry.notify.Listens id := by
  obtain ⟨listener, member, named, opened⟩ := listens
  refine ⟨{ listener with pending := true }, ?_, named, opened⟩
  exact List.mem_map_of_mem (List.mem_filter.mpr ⟨member, by rw [opened]; rfl⟩)

/-- A refresh wakes everyone who listens; a wake-up that is pending already stays one. -/
theorem Listens.receive_notify (listens : registry.Listens id) :
    (registry.notify.receive id).1 = true := by
  obtain ⟨listener, member, named, opened⟩ := listens
  refine List.any_eq_true.mpr ⟨{ listener with pending := true }, ?_, by simp [named]⟩
  exact List.mem_map_of_mem (List.mem_filter.mpr ⟨member, by rw [opened]; rfl⟩)

theorem Listens.receive (listens : registry.Listens id) (other : Nat) :
    (registry.receive other).2.Listens id := by
  obtain ⟨listener, member, named, opened⟩ := listens
  refine ⟨_, List.mem_map_of_mem member, ?_⟩
  split
  · exact ⟨named, opened⟩
  · exact ⟨named, opened⟩

theorem receive_of_not_pending (idle : (registry.receive id).1 = false) :
    (registry.receive id).2 = registry := by
  have calm : ∀ listener ∈ registry.subscriptions,
      (if listener.id = id then { listener with pending := false } else listener) = listener := by
    intro listener member
    have still := List.any_eq_false.mp idle listener member
    split
    · rename_i named
      have off : listener.pending = false := by simpa [named] using still
      rw [← off]
    · rfl
  unfold DeviceRegistry.receive
  dsimp only
  rw [List.map_congr_left calm, List.map_id']

end Listeners

section Assessments

/-- Every device is entered under its own name, and as available exactly if its state and
the limits say so. -/
def Assessed (registry : DeviceRegistry) : Prop :=
  ∀ id device, registry.devices.get? id = some device →
    device.descriptor.device = id ∧ device.isAvailable = device.canServe registry.config

theorem assessed_new (config : RegistryConfig) : Assessed { config } :=
  fun _ _ stored => by cases stored

theorem config_setActive (registry : DeviceRegistry) (id : String) (count : Nat) :
    (registry.setActive id count).2.config = registry.config := by
  unfold setActive
  cases registry.get id with
  | error failure => rfl
  | ok device => rfl

theorem config_upsertAll (registry : DeviceRegistry) (now : Timestamp)
    (descriptors : List DeviceDescriptor) :
    (registry.upsertAll now descriptors).2.config = registry.config := by
  induction descriptors generalizing registry with
  | nil => rfl
  | cons descriptor rest ih => exact ih (registry.upsert descriptor now).2

theorem config_refreshAll (registry : DeviceRegistry) (discovery : Discovery) (now : Timestamp) :
    (registry.refreshAll discovery now).2.config = registry.config := by
  cases discovery with
  | error error => rfl
  | ok report => exact registry.config_upsertAll now report.devices

theorem config_refreshDevice (registry : DeviceRegistry)
    (described : Except DiscoveryError DeviceDescriptor) (now : Timestamp) :
    (registry.refreshDevice described now).2.config = registry.config := by
  cases described with
  | error error => rfl
  | ok descriptor => rfl

theorem Assessed.setActive (assessed : registry.Assessed) (id : String) (count : Nat) :
    (registry.setActive id count).2.Assessed := by
  intro other device stored
  rw [config_setActive]
  rw [get?_setActive] at stored
  by_cases here : other = id
  · rw [if_pos here, Option.map_eq_some_iff] at stored
    obtain ⟨known, found, rfl⟩ := stored
    exact ⟨here ▸ (assessed id known found).1, rfl⟩
  · rw [if_neg here] at stored
    exact assessed other device stored

theorem Assessed.upsert (assessed : registry.Assessed) (descriptor : DeviceDescriptor)
    (now : Timestamp) : (registry.upsert descriptor now).2.Assessed := by
  intro other device stored
  change (registry.devices.insert descriptor.device _).get? other = some device at stored
  rw [Keyed.get?_insert] at stored
  by_cases here : other = descriptor.device
  · rw [if_pos here, Option.some.injEq] at stored
    subst stored
    exact ⟨here.symm, rfl⟩
  · rw [if_neg here] at stored
    exact assessed other device stored

theorem Assessed.upsertAll (assessed : registry.Assessed) (now : Timestamp)
    (descriptors : List DeviceDescriptor) :
    (registry.upsertAll now descriptors).2.Assessed := by
  induction descriptors generalizing registry with
  | nil => exact assessed
  | cons descriptor rest ih => exact ih (assessed.upsert descriptor now)

theorem Assessed.vanish (assessed : registry.Assessed) (seen : List String) :
    (registry.vanish seen).2.Assessed := by
  intro other device stored
  simp only [DeviceRegistry.vanish, Keyed.get?_mapKeyed, Keyed.get?_filter,
    Option.map_eq_some_iff, Option.filter_eq_some_iff] at stored
  obtain ⟨earlier, ⟨known, _⟩, rfl⟩ := stored
  split
  · exact assessed other earlier known
  · exact ⟨(assessed other earlier known).1, rfl⟩

theorem Assessed.refreshAll (assessed : registry.Assessed) (discovery : Discovery)
    (now : Timestamp) : (registry.refreshAll discovery now).2.Assessed := by
  unfold DeviceRegistry.refreshAll
  cases discovery with
  | error error => exact assessed
  | ok report => exact (assessed.upsertAll now report.devices).vanish _

theorem Assessed.refreshDevice (assessed : registry.Assessed)
    (described : Except DiscoveryError DeviceDescriptor) (now : Timestamp) :
    (registry.refreshDevice described now).2.Assessed := by
  unfold DeviceRegistry.refreshDevice
  cases described with
  | error error => exact assessed
  | ok descriptor => exact assessed.upsert descriptor now

/-- A count that is known, with what follows from it, is set without a trace. -/
theorem setActive_eq_self {id : String} {count : Nat}
    (same : ∀ device, registry.devices.get? id = some device →
      { device with activeAllocations := count }.recompute registry.config = device) :
    (registry.setActive id count).2 = registry := by
  unfold DeviceRegistry.setActive
  cases known : registry.get id with
  | error failure => rfl
  | ok device =>
      have stored := get_eq_ok.mp known
      simp only [same device stored, Keyed.insert_eq_self stored]

/-- A count that is set and set back leaves no trace. -/
theorem Assessed.setActive_setActive (assessed : registry.Assessed) {id : String} {device : Device}
    (stored : registry.devices.get? id = some device) (count : Nat) :
    ((registry.setActive id count).2.setActive id device.activeAllocations).2 = registry := by
  have known : registry.get id = .ok device := get_eq_ok.mpr stored
  have changed : (registry.setActive id count).2.get id =
      .ok ({ device with activeAllocations := count }.recompute registry.config) := by
    rw [get_eq_ok, get?_setActive, if_pos rfl, stored]
    rfl
  have restored : ({ { device with activeAllocations := count }.recompute registry.config with
      activeAllocations := device.activeAllocations }.recompute registry.config : Device) =
        device := by
    cases device
    simp only [Device.recompute, Device.mk.injEq, true_and, and_true]
    exact (assessed id _ stored).2.symm
  unfold DeviceRegistry.setActive
  rw [known]
  unfold DeviceRegistry.setActive at changed
  rw [known] at changed
  simp only [changed, restored, Keyed.insert_insert stored]

end Assessments

end DeviceRegistry

end GpuSharing
