import GpuSharing.Discovery.Source
import GpuSharing.Proofs.Reconciliation

/-!
# Describing one device

A source that is asked for one device looks it up in what it says of all of them. A failure
of the device counts before what is listed of it, and of several descriptors the first one
is taken. So the device can be refreshed exactly if it is listed and does not fail, and it is
then entered as a refresh of all devices enters it if no other descriptor of it comes last.
-/

set_option autoImplicit false

namespace GpuSharing

namespace DiscoveryReport

/-- The first descriptor that a report lists for a device. -/
def first? (report : DiscoveryReport) (id : String) : Option DeviceDescriptor :=
  report.devices.find? (·.device = id)

/-- The last descriptor that a report lists for a device. -/
def last? (report : DiscoveryReport) (id : String) : Option DeviceDescriptor :=
  (report.devices.filter (·.device = id)).getLast?

variable {report : DiscoveryReport} {id : String} {descriptor : DeviceDescriptor}

theorem first?_isSome_iff : (report.first? id).isSome ↔ report.Lists id := by
  simp [first?, Lists]

theorem device_of_first? (found : report.first? id = some descriptor) : descriptor.device = id := by
  simpa using List.find?_some found

theorem last?_isSome_iff : (report.last? id).isSome ↔ report.Lists id := by
  simp [last?, Lists]

theorem find?_failures_eq_none_iff :
    report.failures.find? (·.device = id) = none ↔ ¬report.TellsFailure id := by
  simp [TellsFailure]

end DiscoveryReport

namespace Discovery

variable {id : String} {descriptor : DeviceDescriptor}

theorem describe_eq_ok {report : DiscoveryReport} :
    Discovery.describe (.ok report) id = .ok descriptor ↔
      ¬report.TellsFailure id ∧ report.first? id = some descriptor := by
  rw [← DiscoveryReport.find?_failures_eq_none_iff]
  unfold describe DiscoveryReport.first?
  simp only [bind, Except.bind]
  cases report.failures.find? (·.device = id) with
  | some failure => simp
  | none =>
      cases report.devices.find? (·.device = id) with
      | none => simp
      | some found => simp

end Discovery

namespace DeviceRegistry

section Refreshing

variable {registry : DeviceRegistry} {report : DiscoveryReport} {now : Timestamp} {id : String}
  {descriptor : DeviceDescriptor}

theorem refreshDevice_ok (registry : DeviceRegistry) (descriptor : DeviceDescriptor)
    (now : Timestamp) : registry.refreshDevice (.ok descriptor) now =
      (.ok (registry.entryOf descriptor now), (registry.upsert descriptor now).2) := by
  have entry : (registry.upsert descriptor now).1 = registry.entryOf descriptor now := by
    unfold upsert entryOf activeOn
    cases registry.devices.get? descriptor.device with
    | none => rfl
    | some known => rfl
  rw [← entry]
  rfl

theorem refreshDevice_eq_ok {described : Except DiscoveryError DeviceDescriptor} {device : Device}
    {next : DeviceRegistry} :
    registry.refreshDevice described now = (.ok device, next) ↔
      ∃ descriptor, described = .ok descriptor ∧ device = registry.entryOf descriptor now ∧
        next = (registry.upsert descriptor now).2 := by
  cases described with
  | error error => simp [refreshDevice]
  | ok descriptor => simp [refreshDevice_ok, eq_comm]

/-- A refresh of all devices enters the last descriptor that is listed for a device. -/
theorem get?_refreshAll_of_last? (registry : DeviceRegistry) (now : Timestamp)
    (last : report.last? id = some descriptor) :
    (registry.refreshAll (.ok report) now).2.devices.get? id =
      some (registry.entryOf descriptor now) := by
  have lists : report.Lists id := DiscoveryReport.last?_isSome_iff.mp (by simp [last])
  change ((registry.upsertAll now report.devices).2.vanish
    (report.failures.map (·.device) ++ report.devices.map (·.device))).2.devices.get? id = _
  rw [get?_vanish, if_pos (List.mem_append_right _ lists), get?_upsertAll]
  change ((report.last? id).map _).or _ = _
  rw [last]
  rfl

/-- A device can be refreshed exactly if the report lists it and tells no failure of it. It is
then left as a refresh of all devices leaves it, where the first and the last descriptor that
are listed for it are the same. -/
theorem refreshDevice_as_refreshAll (registry : DeviceRegistry) (report : DiscoveryReport)
    (now : Timestamp) (id : String) :
    ((∃ device next, registry.refreshDevice (Discovery.describe (.ok report) id) now =
        (.ok device, next)) ↔ report.Lists id ∧ ¬report.TellsFailure id) ∧
    ∀ device next,
      registry.refreshDevice (Discovery.describe (.ok report) id) now = (.ok device, next) →
      report.first? id = report.last? id →
      next.devices.get? id = some device ∧
        (registry.refreshAll (.ok report) now).2.devices.get? id = some device := by
  constructor
  · constructor
    · rintro ⟨device, next, refreshed⟩
      obtain ⟨descriptor, described, _⟩ := refreshDevice_eq_ok.mp refreshed
      obtain ⟨unfailed, first⟩ := Discovery.describe_eq_ok.mp described
      exact ⟨DiscoveryReport.first?_isSome_iff.mp (by simp [first]), unfailed⟩
    · rintro ⟨lists, unfailed⟩
      obtain ⟨descriptor, first⟩ :=
        Option.isSome_iff_exists.mp (DiscoveryReport.first?_isSome_iff.mpr lists)
      have described := Discovery.describe_eq_ok.mpr ⟨unfailed, first⟩
      exact ⟨_, _, refreshDevice_eq_ok.mpr ⟨descriptor, described, rfl, rfl⟩⟩
  · intro device next refreshed single
    obtain ⟨descriptor, described, rfl, rfl⟩ := refreshDevice_eq_ok.mp refreshed
    obtain ⟨_, first⟩ := Discovery.describe_eq_ok.mp described
    have named := DiscoveryReport.device_of_first? first
    constructor
    · rw [get?_upsert, if_pos named.symm]
    · exact get?_refreshAll_of_last? registry now (single ▸ first)

end Refreshing

/-- Two devices that are listed once each, and the failure of a third one. -/
def listedOnce : DiscoveryReport :=
  { source := "scripted"
    devices := [
      { device := "card1", model := "gpu", memoryTotalBytes := 17179869184 },
      { device := "card0", model := "gpu", memoryTotalBytes := 8589934592 }]
    failures := [{ device := "card2", reason := "broken" }] }

theorem refreshDevice_listedOnce : ∃ device next,
    ({ config := {} } : DeviceRegistry).refreshDevice
        (Discovery.describe (.ok listedOnce) "card0") .epoch = (.ok device, next) ∧
      listedOnce.first? "card0" = listedOnce.last? "card0" ∧
      next.devices.get? "card0" = some device ∧
      (({ config := {} } : DeviceRegistry).refreshAll (.ok listedOnce) .epoch).2.devices.get?
        "card0" = some device := by
  obtain ⟨works, left⟩ := refreshDevice_as_refreshAll { config := {} } listedOnce .epoch "card0"
  have single : listedOnce.first? "card0" = listedOnce.last? "card0" := rfl
  obtain ⟨device, next, refreshed⟩ := works.mpr (by
    simp [DiscoveryReport.Lists, DiscoveryReport.TellsFailure, listedOnce])
  exact ⟨device, next, refreshed, single, left device next refreshed single⟩

/-- The two ways to refresh a device are alike: one of them works for the devices that the other
enters, and both leave the same of them. -/
structure RefreshesAlike (registry : DeviceRegistry) (report : DiscoveryReport) (now : Timestamp)
    (id : String) : Prop where
  works_iff : (∃ device next, registry.refreshDevice (Discovery.describe (.ok report) id) now =
    (.ok device, next)) ↔ report.Lists id
  same : ∀ device next,
    registry.refreshDevice (Discovery.describe (.ok report) id) now = (.ok device, next) →
    next.devices.get? id = (registry.refreshAll (.ok report) now).2.devices.get? id

/-- A report that lists a device and tells a failure of it as well. -/
def listedAndFailing : DiscoveryReport :=
  { source := "scripted"
    devices := [{ device := "card0", model := "gpu", memoryTotalBytes := 8589934592 }]
    failures := [{ device := "card0", reason := "broken" }] }

/-- A report with two descriptors of one device. -/
def listedTwice : DiscoveryReport :=
  { source := "scripted"
    devices := [
      { device := "card0", model := "gpu", memoryTotalBytes := 8589934592 },
      { device := "card0", model := "gpu", memoryTotalBytes := 17179869184 }] }

/-- The first report describes the device only to a refresh of all, and of the second one the
two ways take different descriptors. -/
theorem not_refreshesAlike :
    ¬RefreshesAlike { config := {} } listedAndFailing .epoch "card0" ∧
      ¬RefreshesAlike { config := {} } listedTwice .epoch "card0" := by
  constructor
  · intro alike
    obtain ⟨device, next, refreshed⟩ := alike.works_iff.mpr List.mem_cons_self
    cases refreshed
  · intro alike
    have same := alike.same _ _ rfl
    have sizes := congrArg (Option.map (·.descriptor.memoryTotalBytes)) same
    revert sizes
    decide +kernel

end DeviceRegistry

end GpuSharing
