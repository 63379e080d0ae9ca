import GpuSharing.Proofs.Discovery.Description

/-!
# Falling back

Where the first of two sources works, a search for all devices reports what that one says. A
question for one device goes to the second source as well if the first one does not describe
the device, and so it may be answered with a device that the search does not report.
-/

set_option autoImplicit false

namespace GpuSharing

/-- No device is named twice by a report, be it as listed or as failing. -/
def DiscoveryReport.NamesOnce (report : DiscoveryReport) : Prop :=
  (report.failures.map (·.device) ++ report.devices.map (·.device)).Nodup

theorem DiscoveryReport.NamesOnce.first?_eq_some {report : DiscoveryReport}
    (once : report.NamesOnce) {id : String} {descriptor : DeviceDescriptor} :
    report.first? id = some descriptor ↔ descriptor ∈ report.devices ∧ descriptor.device = id := by
  constructor
  · intro found
    exact ⟨List.mem_of_find?_eq_some found, device_of_first? found⟩
  · rintro ⟨member, rfl⟩
    obtain ⟨found, first⟩ := Option.isSome_iff_exists.mp
      (first?_isSome_iff.mpr (List.mem_map_of_mem member))
    have distinct : (report.devices.map (·.device)).Nodup := (List.nodup_append.mp once).2.1
    rw [first, List.inj_on_of_nodup_map distinct (List.mem_of_find?_eq_some first) member
      (device_of_first? first)]

namespace Discovery

/-- The search reports this descriptor of the device. -/
def Reports (discovery : Discovery) (id : String) (descriptor : DeviceDescriptor) : Prop :=
  ∃ report, discovery = .ok report ∧ descriptor ∈ report.devices ∧ descriptor.device = id

/-- The search works and does not report the device. -/
def Omits (discovery : Discovery) (id : String) : Prop :=
  ∃ report, discovery = .ok report ∧ ¬report.Lists id

/-- If the search works, it names no device twice. -/
def NamesOnce (discovery : Discovery) : Prop :=
  ∀ report, discovery = .ok report → report.NamesOnce

variable {discovery : Discovery} {id : String} {descriptor : DeviceDescriptor}

/-- A device that is named only once is described by what is listed of it. -/
theorem NamesOnce.describe_eq_ok (once : discovery.NamesOnce) :
    discovery.describe id = .ok descriptor ↔ discovery.Reports id descriptor := by
  cases discovery with
  | error error =>
      refine iff_of_false (fun answered => by cases answered) ?_
      rintro ⟨report, served, _⟩
      cases served
  | ok report =>
      have distinct : report.NamesOnce := once report rfl
      simp only [Reports, Except.ok.injEq, exists_eq_left']
      rw [Discovery.describe_eq_ok, distinct.first?_eq_some]
      refine and_iff_right_of_imp ?_
      rintro ⟨member, rfl⟩ failed
      exact (List.nodup_append.mp distinct).2.2 _ failed _ (List.mem_map_of_mem member) rfl

theorem NamesOnce.describe_eq_error (once : discovery.NamesOnce) :
    (∃ error, discovery.describe id = .error error) ↔
      (∃ error, discovery = .error error) ∨ discovery.Omits id := by
  cases discovery with
  | error error => exact iff_of_true ⟨error, rfl⟩ (.inl ⟨error, rfl⟩)
  | ok report =>
      have omits : Omits (.ok report) id ↔ ¬report.Lists id := by simp [Omits]
      rw [omits, ← DiscoveryReport.first?_isSome_iff]
      cases described : Discovery.describe (.ok report) id with
      | error error =>
          refine iff_of_true ⟨error, rfl⟩ (.inr fun some => ?_)
          obtain ⟨found, first⟩ := Option.isSome_iff_exists.mp some
          have answered := once.describe_eq_ok.mpr
            ⟨report, rfl, (once report rfl).first?_eq_some.mp first⟩
          rw [described] at answered
          cases answered
      | ok found =>
          have first := (Discovery.describe_eq_ok.mp described).2
          simp [first]

end Discovery

namespace DiscoverySource

section Answers

variable {first second : DiscoverySource} {id : String} {descriptor : DeviceDescriptor}

theorem describe_fallback_eq_ok : (first.fallback second).describe id = .ok descriptor ↔
    first.describe id = .ok descriptor ∨
      (∃ error, first.describe id = .error error) ∧ second.describe id = .ok descriptor := by
  unfold fallback
  dsimp only
  cases first.describe id with
  | error error => simp
  | ok found => simp

theorem reports_fallback : (first.fallback second).discover.Reports id descriptor ↔
    first.discover.Reports id descriptor ∨
      (∃ error, first.discover = .error error) ∧ second.discover.Reports id descriptor := by
  unfold fallback
  dsimp only
  cases first.discover with
  | error error => simp [Discovery.Reports]
  | ok report => simp [Discovery.Reports]

end Answers

section Agreement

variable {first second : Discovery}

/-- A source that falls back describes a device as it reports it, or as the second source
reports it while the first one works without reporting the device. The latter is where the
two answers disagree. -/
theorem describe_fallback_iff (firstOnce : first.NamesOnce) (secondOnce : second.NamesOnce)
    (firstName secondName : String) (firstCommands secondCommands : List (List String))
    (id : String) (descriptor : DeviceDescriptor) :
    let source := fallback (.ofDiscovery firstName first firstCommands)
      (.ofDiscovery secondName second secondCommands)
    (source.describe id = .ok descriptor ↔
      source.discover.Reports id descriptor ∨ first.Omits id ∧ second.Reports id descriptor) ∧
    ((source.describe id = .ok descriptor ↔ source.discover.Reports id descriptor) ↔
      ¬(first.Omits id ∧ second.Reports id descriptor)) := by
  intro source
  have described : source.describe id = .ok descriptor ↔
      first.Reports id descriptor ∨
        ((∃ error, first = .error error) ∨ first.Omits id) ∧ second.Reports id descriptor := by
    rw [describe_fallback_eq_ok]
    exact or_congr firstOnce.describe_eq_ok
      (and_congr firstOnce.describe_eq_error secondOnce.describe_eq_ok)
  have reported : source.discover.Reports id descriptor ↔
      first.Reports id descriptor ∨
        (∃ error, first = .error error) ∧ second.Reports id descriptor := reports_fallback
  have apart : first.Omits id → ¬source.discover.Reports id descriptor := by
    rintro ⟨report, served, unlisted⟩ found
    rcases reported.mp found with ⟨_, again, member, rfl⟩ | ⟨⟨error, failed⟩, _⟩
    · rw [served] at again
      cases again
      exact unlisted (List.mem_map_of_mem member)
    · rw [served] at failed
      cases failed
  have whole : source.describe id = .ok descriptor ↔
      source.discover.Reports id descriptor ∨
        first.Omits id ∧ second.Reports id descriptor := by
    rw [described, reported, or_and_right, or_assoc]
  refine ⟨whole, ?_⟩
  rw [whole]
  constructor
  · rintro agree ⟨omits, reports⟩
    exact apart omits (agree.mp (.inr ⟨omits, reports⟩))
  · exact fun never => or_iff_left never

end Agreement

/-- A search that works but could not read its only device. -/
def brokenDevice : Discovery :=
  .ok { source := "scripted", failures := [{ device := "card0", reason := "broken" }] }

/-- A search that finds that device. -/
def soundDevice : Discovery :=
  .ok
    { source := "scripted"
      devices := [{ device := "card0", model := "gpu", memoryTotalBytes := 0 }] }

/-- The device that could not be read is taken from the second source, which is not searched. -/
theorem describe_brokenDevice :
    ∃ descriptor,
      (fallback (.ofDiscovery "scripted" brokenDevice [])
        (.ofDiscovery "scripted" soundDevice [])).describe "card0" = .ok descriptor ∧
      ¬(fallback (.ofDiscovery "scripted" brokenDevice [])
        (.ofDiscovery "scripted" soundDevice [])).discover.Reports "card0" descriptor := by
  refine ⟨_, rfl, ?_⟩
  rintro ⟨report, served, member, _⟩
  cases served
  cases member

theorem describe_fallback_brokenDevice :
    brokenDevice.NamesOnce ∧ soundDevice.NamesOnce ∧ ∃ descriptor,
      (fallback (.ofDiscovery "scripted" brokenDevice [])
        (.ofDiscovery "scripted" soundDevice [])).describe "card0" = .ok descriptor ∧
      brokenDevice.Omits "card0" ∧ soundDevice.Reports "card0" descriptor := by
  have brokenOnce : brokenDevice.NamesOnce := by
    rintro report ⟨⟩
    exact List.nodup_singleton _
  have soundOnce : soundDevice.NamesOnce := by
    rintro report ⟨⟩
    exact List.nodup_singleton _
  have omits : brokenDevice.Omits "card0" := ⟨_, rfl, List.not_mem_nil⟩
  have reports : soundDevice.Reports "card0" _ := ⟨_, rfl, List.mem_cons_self, rfl⟩
  exact ⟨brokenOnce, soundOnce, _,
    (describe_fallback_iff brokenOnce soundOnce "scripted" "scripted" [] [] "card0" _).1.mpr
      (.inr ⟨omits, reports⟩), omits, reports⟩

end DiscoverySource

end GpuSharing
