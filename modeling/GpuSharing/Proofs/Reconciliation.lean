import GpuSharing.Proofs.Registry
import Mathlib

/-!
# Bringing the registry in line with a report

A refresh enters every device that a report lists, leaves those alone of which it only tells
failures, and of all others keeps those on which allocations live. What it says that it added
and removed is exactly that, and the same report a second time has nothing to add or remove.
-/

set_option autoImplicit false

namespace GpuSharing

namespace DiscoveryReport

def Lists (report : DiscoveryReport) (id : String) : Prop :=
  id ∈ report.devices.map (·.device)

def TellsFailure (report : DiscoveryReport) (id : String) : Prop :=
  id ∈ report.failures.map (·.device)

end DiscoveryReport

namespace DeviceRegistry

def Knows (registry : DeviceRegistry) (id : String) : Prop :=
  ∃ device, registry.devices.get? id = some device

/-- The allocations that are counted on a device; none where it is not known. -/
def activeOn (registry : DeviceRegistry) (id : String) : Nat :=
  ((registry.devices.get? id).map (·.activeAllocations)).getD 0

/-- The entry of a device that a report describes. -/
def entryOf (registry : DeviceRegistry) (descriptor : DeviceDescriptor) (now : Timestamp) : Device :=
  let device : Device :=
    { descriptor
      activeAllocations := registry.activeOn descriptor.device
      lastRefresh := now }
  device.recompute registry.config

variable {registry : DeviceRegistry} {now : Timestamp} {id : String}

section Entering

theorem upsert_eq (registry : DeviceRegistry) (descriptor : DeviceDescriptor) (now : Timestamp) :
    (registry.upsert descriptor now).2 = { registry with
      devices := registry.devices.insert descriptor.device (registry.entryOf descriptor now) } := by
  unfold upsert entryOf activeOn
  cases registry.devices.get? descriptor.device with
  | none => rfl
  | some known => rfl

theorem get?_upsert (registry : DeviceRegistry) (descriptor : DeviceDescriptor) (now : Timestamp)
    (id : String) :
    (registry.upsert descriptor now).2.devices.get? id =
      if id = descriptor.device then some (registry.entryOf descriptor now)
      else registry.devices.get? id := by
  rw [upsert_eq, Keyed.get?_insert]

theorem activeOn_upsert (registry : DeviceRegistry) (descriptor : DeviceDescriptor)
    (now : Timestamp) (id : String) :
    (registry.upsert descriptor now).2.activeOn id = registry.activeOn id := by
  rw [activeOn, get?_upsert]
  by_cases here : id = descriptor.device
  · rw [if_pos here, here]
    rfl
  · rw [if_neg here, activeOn]

theorem knows_upsert {descriptor : DeviceDescriptor} :
    (registry.upsert descriptor now).2.Knows id ↔ id = descriptor.device ∨ registry.Knows id := by
  rw [Knows, get?_upsert]
  by_cases here : id = descriptor.device
  · simp [here]
  · simp [here, Knows]

/-- A device carries the last descriptor that is entered for it. -/
theorem get?_upsertAll (registry : DeviceRegistry) (now : Timestamp)
    (descriptors : List DeviceDescriptor) (id : String) :
    (registry.upsertAll now descriptors).2.devices.get? id =
      (((descriptors.filter (·.device = id)).getLast?).map (registry.entryOf · now)).or
        (registry.devices.get? id) := by
  induction descriptors generalizing registry with
  | nil => rfl
  | cons descriptor rest ih =>
      have entry (other : DeviceDescriptor) :
          (registry.upsert descriptor now).2.entryOf other now = registry.entryOf other now := by
        rw [entryOf, activeOn_upsert]
        rfl
      refine (ih _).trans ?_
      rw [get?_upsert, funext entry]
      by_cases here : descriptor.device = id
      · rw [List.filter_cons_of_pos (by simpa using here), List.getLast?_cons, if_pos here.symm]
        cases (rest.filter (·.device = id)).getLast? with
        | none => rfl
        | some last => rfl
      · rw [List.filter_cons_of_neg (by simpa using here), if_neg (Ne.symm here)]

theorem contains_iff : registry.devices.contains id ↔ registry.Knows id :=
  Option.isSome_iff_exists

theorem added_cons (registry : DeviceRegistry) (now : Timestamp) (descriptor : DeviceDescriptor)
    (rest : List DeviceDescriptor) :
    (registry.upsertAll now (descriptor :: rest)).1 =
      if registry.devices.contains descriptor.device then
        ((registry.upsert descriptor now).2.upsertAll now rest).1
      else descriptor.device :: ((registry.upsert descriptor now).2.upsertAll now rest).1 :=
  rfl

theorem mem_added {descriptors : List DeviceDescriptor} :
    id ∈ (registry.upsertAll now descriptors).1 ↔
      ¬ registry.Knows id ∧ id ∈ descriptors.map (·.device) := by
  induction descriptors generalizing registry with
  | nil => simp [upsertAll]
  | cons descriptor rest ih =>
      rw [added_cons, List.map_cons, List.mem_cons]
      by_cases known : registry.Knows descriptor.device
      · rw [if_pos (contains_iff.mpr known), ih, knows_upsert]
        by_cases here : id = descriptor.device
        · simp [here, known]
        · simp [here]
      · rw [if_neg (mt contains_iff.mp known), List.mem_cons, ih, knows_upsert]
        by_cases here : id = descriptor.device
        · simp [here, known]
        · simp [here]

theorem nodup_added (registry : DeviceRegistry) (now : Timestamp)
    (descriptors : List DeviceDescriptor) : (registry.upsertAll now descriptors).1.Nodup := by
  induction descriptors generalizing registry with
  | nil => exact .nil
  | cons descriptor rest ih =>
      rw [added_cons]
      split
      · exact ih _
      · -- Once it is entered it is known, and is not added again.
        refine List.nodup_cons.mpr ⟨fun again => ?_, ih _⟩
        exact (mem_added.mp again).1 (knows_upsert.mpr (.inl rfl))

end Entering

section Vanishing

theorem get?_vanish (registry : DeviceRegistry) (seen : List String) (id : String) :
    (registry.vanish seen).2.devices.get? id =
      if id ∈ seen then registry.devices.get? id
      else ((registry.devices.get? id).filter (·.activeAllocations ≠ 0)).map fun device =>
        { device with missing := true, isAvailable := false } := by
  unfold vanish
  simp only [Keyed.get?_mapKeyed, Keyed.get?_filter]
  cases registry.devices.get? id with
  | none => simp
  | some device =>
      by_cases named : id ∈ seen
      · simp [named, Option.filter]
      · by_cases idle : device.activeAllocations = 0
        · simp [named, idle, Option.filter]
        · simp [named, idle, Option.filter, Device.recompute, Device.canServe]

theorem mem_removed {seen : List String} :
    id ∈ (registry.vanish seen).1 ↔ id ∉ seen ∧
      ∃ device, registry.devices.get? id = some device ∧ device.activeAllocations = 0 := by
  unfold vanish naturalSort
  simp only [List.mem_mergeSort, List.mem_map, List.mem_filter]
  constructor
  · rintro ⟨⟨key, device⟩, ⟨stored, gone⟩, rfl⟩
    simp only [Bool.and_eq_true, Bool.not_eq_true', List.contains_eq_mem, decide_eq_true_eq,
      decide_eq_false_iff_not] at gone
    exact ⟨gone.1, device, Keyed.mem_entries.mp stored, gone.2⟩
  · rintro ⟨unseen, device, stored, idle⟩
    exact ⟨(id, device), ⟨Keyed.mem_entries.mpr stored, by simp [unseen, idle]⟩, rfl⟩

theorem nodup_removed (registry : DeviceRegistry) (seen : List String) :
    (registry.vanish seen).1.Nodup := by
  refine (List.mergeSort_perm _ _).nodup_iff.mpr ?_
  exact registry.devices.nodup_keys.sublist (List.filter_sublist.map _)

end Vanishing

section Refreshing

/-- What a refresh makes of the entry of one device. -/
inductive Fate (before : DeviceRegistry) (report : DiscoveryReport) (now : Timestamp)
    (id : String) : Option Device → Prop
  | listed (descriptor : DeviceDescriptor) (listed : descriptor ∈ report.devices)
      (named : descriptor.device = id) :
      before.Fate report now id (some (before.entryOf descriptor now))
  | failed (unlisted : ¬ report.Lists id) (failed : report.TellsFailure id) :
      before.Fate report now id (before.devices.get? id)
  | busy (unlisted : ¬ report.Lists id) (unfailed : ¬ report.TellsFailure id) (device : Device)
      (known : before.devices.get? id = some device) (busy : device.activeAllocations ≠ 0) :
      before.Fate report now id (some { device with missing := true, isAvailable := false })
  | gone (unlisted : ¬ report.Lists id) (unfailed : ¬ report.TellsFailure id)
      (idle : before.activeOn id = 0) : before.Fate report now id none

variable {report : DiscoveryReport}

theorem activeOn_eq {device : Device} (known : registry.devices.get? id = some device) :
    registry.activeOn id = device.activeAllocations := by
  rw [activeOn, known]
  rfl

theorem knows_of_activeOn (busy : registry.activeOn id ≠ 0) : registry.Knows id := by
  unfold activeOn at busy
  cases known : registry.devices.get? id with
  | none => simp [known] at busy
  | some device => exact ⟨device, known⟩

theorem get?_upsertAll_of_not_lists (unlisted : ¬ report.Lists id) :
    (registry.upsertAll now report.devices).2.devices.get? id = registry.devices.get? id := by
  have none : report.devices.filter (·.device = id) = [] := by
    refine List.filter_eq_nil_iff.mpr fun descriptor member named => unlisted ?_
    exact List.mem_map.mpr ⟨descriptor, member, by simpa using named⟩
  rw [get?_upsertAll, none]
  rfl

theorem fate_refreshAll (registry : DeviceRegistry) (report : DiscoveryReport) (now : Timestamp)
    (id : String) :
    registry.Fate report now id
      ((registry.refreshAll (.ok report) now).2.devices.get? id) := by
  change registry.Fate report now id
    (((registry.upsertAll now report.devices).2.vanish _).2.devices.get? id)
  have seen : id ∈ report.failures.map (·.device) ++ report.devices.map (·.device) ↔
      report.TellsFailure id ∨ report.Lists id := List.mem_append
  rw [get?_vanish]
  by_cases lists : report.Lists id
  · rw [if_pos (seen.mpr (.inr lists)), get?_upsertAll]
    cases last : (report.devices.filter (·.device = id)).getLast? with
    | none =>
        obtain ⟨descriptor, member, named⟩ := List.mem_map.mp lists
        rw [List.getLast?_eq_none_iff, List.filter_eq_nil_iff] at last
        exact absurd (decide_eq_true named) (last descriptor member)
    | some descriptor =>
        obtain ⟨member, named⟩ := List.mem_filter.mp (List.mem_of_getLast? last)
        exact .listed descriptor member (of_decide_eq_true named)
  · rw [get?_upsertAll_of_not_lists lists]
    by_cases fails : report.TellsFailure id
    · rw [if_pos (seen.mpr (.inl fails))]
      exact .failed lists fails
    · rw [if_neg (mt seen.mp (not_or.mpr ⟨fails, lists⟩))]
      cases known : registry.devices.get? id with
      | none => exact .gone lists fails (by rw [activeOn, known]; rfl)
      | some device =>
          by_cases idle : device.activeAllocations = 0
          · simp only [Option.filter, idle, ne_eq, not_true_eq_false, decide_false]
            exact .gone lists fails ((activeOn_eq known).trans idle)
          · simp only [Option.filter, idle, ne_eq, not_false_eq_true, decide_true]
            exact .busy lists fails device known idle

variable {after : DeviceRegistry} {entry : Option Device}

theorem Fate.knows_iff (fate : registry.Fate report now id entry)
    (stored : after.devices.get? id = entry) :
    after.Knows id ↔
      report.Lists id ∨ registry.Knows id ∧ report.TellsFailure id ∨ 0 < registry.activeOn id := by
  unfold Knows
  rw [stored]
  cases fate with
  | listed descriptor listed named =>
      exact iff_of_true ⟨_, rfl⟩ (.inl (named ▸ List.mem_map_of_mem listed))
  | failed unlisted failed =>
      refine ⟨fun known => .inr (.inl ⟨known, failed⟩), ?_⟩
      rintro (listed | ⟨known, _⟩ | busy)
      · exact absurd listed unlisted
      · exact known
      · exact knows_of_activeOn (Nat.ne_of_gt busy)
  | busy unlisted unfailed device known busy =>
      rw [activeOn_eq known]
      exact iff_of_true ⟨_, rfl⟩ (.inr (.inr (Nat.pos_of_ne_zero busy)))
  | gone unlisted unfailed idle =>
      rw [idle]
      refine iff_of_false (fun ⟨_, found⟩ => by cases found) ?_
      rintro (listed | ⟨_, failed⟩ | busy)
      · exact unlisted listed
      · exact unfailed failed
      · exact Nat.lt_irrefl 0 busy

theorem Fate.of_lists (fate : registry.Fate report now id entry) (lists : report.Lists id) :
    ∃ device, entry = some device ∧ device.descriptor ∈ report.devices ∧
      device.descriptor.device = id ∧ device.missing = false ∧ device.lastRefresh = now := by
  cases fate with
  | listed descriptor listed named => exact ⟨_, rfl, listed, named, rfl, rfl⟩
  | failed unlisted failed => exact absurd lists unlisted
  | busy unlisted unfailed device known busy => exact absurd lists unlisted
  | gone unlisted unfailed idle => exact absurd lists unlisted

theorem Fate.of_fails (fate : registry.Fate report now id entry) (unlisted : ¬ report.Lists id)
    (fails : report.TellsFailure id) : entry = registry.devices.get? id := by
  cases fate with
  | listed descriptor listed named =>
      exact absurd (named ▸ List.mem_map_of_mem listed) unlisted
  | failed _ _ => rfl
  | busy _ unfailed device known busy => exact absurd fails unfailed
  | gone _ unfailed idle => exact absurd fails unfailed

theorem Fate.of_not_seen {device : Device} (fate : registry.Fate report now id (some device))
    (unlisted : ¬ report.Lists id) (unfailed : ¬ report.TellsFailure id) :
    device.missing = true ∧ device.isAvailable = false := by
  generalize stored : some device = entry at fate
  cases fate with
  | listed descriptor listed named =>
      exact absurd (named ▸ List.mem_map_of_mem listed) unlisted
  | failed _ failed => exact absurd failed unfailed
  | busy _ _ known found busy =>
      rw [Option.some.inj stored]
      exact ⟨rfl, rfl⟩
  | gone _ _ idle => cases stored

theorem Fate.activeOn_eq (fate : registry.Fate report now id entry)
    (stored : after.devices.get? id = entry) (knows : after.Knows id) :
    after.activeOn id = registry.activeOn id := by
  obtain ⟨device, found⟩ := knows
  rw [stored] at found
  unfold activeOn
  rw [stored]
  cases fate with
  | listed descriptor listed named =>
      rw [← named]
      rfl
  | failed unlisted failed => rfl
  | busy unlisted unfailed device known busy =>
      rw [known]
      rfl
  | gone unlisted unfailed idle => cases found

end Refreshing

/-- What a refresh makes of a registry, and what it says about that. -/
structure Reconciled (before after : DeviceRegistry) (report : DiscoveryReport) (now : Timestamp)
    (summary : RefreshSummary) : Prop where
  knows : ∀ id, after.Knows id ↔
    report.Lists id ∨ before.Knows id ∧ report.TellsFailure id ∨ 0 < before.activeOn id
  listed : ∀ id, report.Lists id → ∃ device, after.devices.get? id = some device ∧
    device.descriptor ∈ report.devices ∧ device.descriptor.device = id ∧
    device.missing = false ∧ device.lastRefresh = now
  failed : ∀ id, ¬ report.Lists id → report.TellsFailure id →
    after.devices.get? id = before.devices.get? id
  vanished : ∀ id, ¬ report.Lists id → ¬ report.TellsFailure id → ∀ device,
    after.devices.get? id = some device → device.missing = true ∧ device.isAvailable = false
  active : ∀ id, after.Knows id → after.activeOn id = before.activeOn id
  added : ∀ id, id ∈ summary.added ↔ ¬ before.Knows id ∧ after.Knows id
  added_once : summary.added.Nodup
  removed : ∀ id, id ∈ summary.removed ↔ before.Knows id ∧ ¬ after.Knows id
  removed_once : summary.removed.Nodup

section Summaries

variable {report : DiscoveryReport} {id : String}

theorem mem_summary_added : id ∈ (registry.upsertAll now report.devices).1 ↔
    ¬ registry.Knows id ∧ (report.Lists id ∨
      registry.Knows id ∧ report.TellsFailure id ∨ 0 < registry.activeOn id) := by
  refine mem_added.trans (and_congr_right fun unknown => ⟨.inl, fun known => ?_⟩)
  rcases known with listed | ⟨known, _⟩ | busy
  · exact listed
  · exact absurd known unknown
  · exact absurd (knows_of_activeOn (Nat.ne_of_gt busy)) unknown

theorem mem_summary_removed :
    id ∈ ((registry.upsertAll now report.devices).2.vanish
      (report.failures.map (·.device) ++ report.devices.map (·.device))).1 ↔
    registry.Knows id ∧ ¬ (report.Lists id ∨
      registry.Knows id ∧ report.TellsFailure id ∨ 0 < registry.activeOn id) := by
  rw [mem_removed, List.mem_append]
  constructor
  · rintro ⟨unseen, device, stored, idle⟩
    obtain ⟨unfailed, unlisted⟩ := not_or.mp unseen
    rw [get?_upsertAll_of_not_lists unlisted] at stored
    refine ⟨⟨device, stored⟩, ?_⟩
    rintro (listed | ⟨_, failed⟩ | busy)
    · exact unlisted listed
    · exact unfailed failed
    · exact absurd (activeOn_eq stored ▸ busy) (by simp [idle])
  · rintro ⟨⟨device, known⟩, gone⟩
    obtain ⟨unlisted, unfailed, idle⟩ := by simpa only [not_or] using gone
    refine ⟨not_or.mpr ⟨fun failed => unfailed ⟨⟨device, known⟩, failed⟩, unlisted⟩, device,
      (get?_upsertAll_of_not_lists unlisted).trans known, ?_⟩
    rw [← activeOn_eq known]
    exact Nat.eq_zero_of_not_pos idle

end Summaries

theorem reconciled_refreshAll (registry : DeviceRegistry) (report : DiscoveryReport)
    (now : Timestamp) : ∃ summary, (registry.refreshAll (.ok report) now).1 = .ok summary ∧
      registry.Reconciled (registry.refreshAll (.ok report) now).2 report now summary := by
  have fate := registry.fate_refreshAll report now
  have knows (id : String) := (fate id).knows_iff rfl
  refine ⟨_, rfl, ?_⟩
  constructor
  case knows => exact knows
  case listed => exact fun id => (fate id).of_lists
  case failed => exact fun id => (fate id).of_fails
  case vanished =>
    intro id unlisted unfailed device stored
    exact (stored ▸ fate id).of_not_seen unlisted unfailed
  case active => exact fun id => (fate id).activeOn_eq rfl
  case added =>
    intro id
    rw [knows]
    exact mem_summary_added
  case added_once => exact registry.nodup_added now report.devices
  case removed =>
    intro id
    rw [knows]
    exact mem_summary_removed
  case removed_once => exact nodup_removed ..

/-- The same report again finds everything as it says. -/
theorem Reconciled.again {before next last : DeviceRegistry} {report : DiscoveryReport}
    {now later : Timestamp} {summary again : RefreshSummary}
    (first : before.Reconciled next report now summary)
    (second : next.Reconciled last report later again) :
    again.added = [] ∧ again.removed = [] := by
  have stays (id : String) : next.Knows id ↔ last.Knows id := by
    rw [second.knows]
    constructor
    · intro known
      rcases (first.knows id).mp known with listed | ⟨_, failed⟩ | busy
      · exact .inl listed
      · exact .inr (.inl ⟨known, failed⟩)
      · exact .inr (.inr (first.active id known ▸ busy))
    · rintro (listed | ⟨known, _⟩ | busy)
      · exact (first.knows id).mpr (.inl listed)
      · exact known
      · exact knows_of_activeOn (Nat.ne_of_gt busy)
  constructor
  · refine List.eq_nil_iff_forall_not_mem.mpr fun id added => ?_
    obtain ⟨unknown, known⟩ := (second.added id).mp added
    exact unknown ((stays id).mpr known)
  · refine List.eq_nil_iff_forall_not_mem.mpr fun id removed => ?_
    obtain ⟨known, unknown⟩ := (second.removed id).mp removed
    exact unknown ((stays id).mp known)

/-- An outage changes nothing. A report is taken over as it is, and the same report a second
time, whenever that is, has nothing to add or remove. -/
theorem refreshAll_reconciles (registry : DeviceRegistry) (now : Timestamp) :
    (∀ error, registry.refreshAll (.error error) now = (.error error, registry)) ∧
    ∀ report, ∃ summary next,
      registry.refreshAll (.ok report) now = (.ok summary, next) ∧
      registry.Reconciled next report now summary ∧
      ∀ later, ∃ again last, next.refreshAll (.ok report) later = (.ok again, last) ∧
        again.added = [] ∧ again.removed = [] := by
  refine ⟨fun error => rfl, fun report => ?_⟩
  obtain ⟨summary, answer, first⟩ := registry.reconciled_refreshAll report now
  refine ⟨summary, _, Prod.ext answer rfl, first, fun later => ?_⟩
  obtain ⟨again, repeated, second⟩ := reconciled_refreshAll _ report later
  exact ⟨again, _, Prod.ext repeated rfl, first.again second⟩

end DeviceRegistry

end GpuSharing
