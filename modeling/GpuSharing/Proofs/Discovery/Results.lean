import GpuSharing.Discovery.Attributes
import GpuSharing.Discovery.Inventory
import GpuSharing.Discovery.ToolReport
import GpuSharing.Proofs.Reconciliation

/-!
# What the sources read of each device

Each source reads the devices of the node one by one. A report lists those that could be read
and tells the failures of the others; here is what decides between the two.
-/

set_option autoImplicit false

namespace GpuSharing

namespace DiscoveryReport

variable {source : String} {results : List (Except DeviceFailure DeviceDescriptor)}

theorem mem_devices_ofResults {descriptor : DeviceDescriptor} :
    descriptor ∈ (ofResults source results).devices ↔ .ok descriptor ∈ results := by
  unfold ofResults naturalSort
  rw [List.mem_mergeSort, List.mem_filterMap]
  constructor
  · rintro ⟨result, member, kept⟩
    cases result with
    | error failure => cases kept
    | ok found =>
        cases kept
        exact member
  · exact fun member => ⟨_, member, rfl⟩

theorem mem_failures_ofResults {failure : DeviceFailure} :
    failure ∈ (ofResults source results).failures ↔ .error failure ∈ results := by
  unfold ofResults
  rw [List.mem_filterMap]
  constructor
  · rintro ⟨result, member, kept⟩
    cases result with
    | error found =>
        cases kept
        exact member
    | ok descriptor => cases kept
  · exact fun member => ⟨_, member, rfl⟩

end DiscoveryReport

namespace ToolReport

section Entries

theorem lastMember?_cons (member : String × Json) (members : List (String × Json))
    (name : String) : Json.lastMember? (member :: members) name =
      (Json.lastMember? members name).or (if member.1 = name then some member.2 else none) := by
  unfold Json.lastMember?
  rw [List.reverse_cons, List.find?_append]
  cases members.reverse.find? (·.1 = name) with
  | some last => rfl
  | none =>
      by_cases here : member.1 = name
      · simp [here]
      · simp [here]

/-- A name stands for the last of its values. -/
theorem get?_entries (members : List (String × Json)) (name : String) :
    (entries members).get? name = Json.lastMember? members name := by
  have entered (keyed : Keyed Json) :
      (members.foldl (fun entries member => entries.insert member.1 member.2) keyed).get? name =
        (Json.lastMember? members name).or (keyed.get? name) := by
    induction members generalizing keyed with
    | nil => rfl
    | cons member rest ih =>
        rw [List.foldl_cons, ih, lastMember?_cons, Keyed.get?_insert]
        cases Json.lastMember? rest name with
        | some last => rfl
        | none =>
            by_cases here : name = member.1
            · simp [here]
            · simp [here, Ne.symm here]
  exact (entered .empty).trans (by simp)

theorem mem_results {members : List (String × Json)}
    {result : Except DeviceFailure DeviceDescriptor} :
    result ∈ ((entries members).entries.filter fun entry => isCard entry.1).map
        (fun entry => ofEntry entry.1 entry.2) ↔
      ∃ card json, isCard card ∧ Json.lastMember? members card = some json ∧
        result = ofEntry card json := by
  simp only [List.mem_map, List.mem_filter, Prod.exists, Keyed.mem_entries, get?_entries]
  constructor
  · rintro ⟨card, json, ⟨entry, named⟩, rfl⟩
    exact ⟨card, json, named, entry, rfl⟩
  · rintro ⟨card, json, named, entry, rfl⟩
    exact ⟨card, json, ⟨entry, named⟩, rfl⟩

end Entries

/-- A card is described if its memory total and its modes can be read. -/
theorem ofFields_cases (card : String) (fields : Fields) :
    (bytes? fields memoryTotalKeys = none ∧
      ofFields card fields = .error "missing or invalid VRAM total") ∨
    (bytes? fields memoryTotalKeys).isSome ∧
      ((∃ error, partition fields = .error error ∧ ofFields card fields = .error error.message) ∨
        ∃ division descriptor, partition fields = .ok division ∧
          ofFields card fields = .ok descriptor ∧ descriptor.device = card ∧
          descriptor.partition = division) := by
  unfold ofFields
  cases bytes? fields memoryTotalKeys with
  | none => exact .inl ⟨rfl, rfl⟩
  | some total =>
      refine .inr ⟨rfl, ?_⟩
      cases partition fields with
      | error error => exact .inl ⟨error, rfl, rfl⟩
      | ok division => exact .inr ⟨division, _, rfl, rfl, rfl, rfl⟩

theorem parse_eq_ok {output : String} {report : DiscoveryReport}
    (parsed : parse output = .ok report) : ∃ members,
      Json.parse? output = some (.object members) ∧ report = ofMembers members := by
  unfold parse at parsed
  split at parsed
  · rename_i members read
    refine ⟨members, read, ?_⟩
    dsimp only at parsed
    split at parsed
    · exact (Except.ok.inj parsed).symm
    · cases parsed
  · cases parsed

end ToolReport

namespace Attributes

/-- The directory of a card. -/
def directory (root card : String) : String := joinPath (joinPath root card) "device"

variable {files : FileTree} {root card : String}

/-- A card that has a directory is described if its memory total and its modes can be read. -/
theorem readCard_cases (files : FileTree) (root card : String) :
    (files.leads (directory root card) = false ∧
      readCard files root card = .error (.deviceNotFound card)) ∨
    files.leads (directory root card) ∧
      ((∃ error, bytes files (joinPath (directory root card) "mem_info_vram_total") =
          .error error ∧ readCard files root card = .error error) ∨
        (bytes files (joinPath (directory root card) "mem_info_vram_total")).isOk ∧
          ((∃ error, partition files (directory root card) = .error error ∧
              readCard files root card = .error error) ∨
            ∃ division descriptor, partition files (directory root card) = .ok division ∧
              readCard files root card = .ok descriptor ∧ descriptor.device = card ∧
              descriptor.partition = division)) := by
  unfold readCard
  dsimp only [directory]
  cases files.leads (joinPath (joinPath root card) "device") with
  | false => exact .inl ⟨rfl, rfl⟩
  | true =>
      refine .inr ⟨rfl, ?_⟩
      cases bytes files (joinPath (joinPath (joinPath root card) "device") "mem_info_vram_total") with
      | error error => exact .inl ⟨error, rfl, rfl⟩
      | ok total =>
          refine .inr ⟨rfl, ?_⟩
          cases partition files (joinPath (joinPath root card) "device") with
          | error error => exact .inl ⟨error, rfl, rfl⟩
          | ok division => exact .inr ⟨division, _, rfl, rfl, rfl, rfl⟩

theorem result?_eq_ok {descriptor : DeviceDescriptor} :
    result? files root card = some (.ok descriptor) ↔ readCard files root card = .ok descriptor := by
  unfold result?
  split
  · rename_i found read
    rw [read]
    simp
  · rename_i read
    simp [read]
  · rename_i read
    simp [read]

/-- Only a card without a directory is left out of the report. -/
theorem result?_of_error {error : DiscoveryError} (failed : readCard files root card = .error error)
    (there : ∀ device, error ≠ .deviceNotFound device) :
    result? files root card = some (.error { device := card, reason := error.message }) := by
  unfold result?
  rw [failed]
  cases error with
  | deviceNotFound device => exact absurd rfl (there device)
  | unavailable | commandFailed | timeout | parse | io => rfl

theorem discover_eq_ok {report : DiscoveryReport} (found : discover files root = .ok report) :
    ∃ names, files.listNames root = .ok names ∧
      report = .ofResults "sysfs" ((names.filter isCardName).filterMap (result? files root)) := by
  unfold discover at found
  split at found
  · cases found
  · cases found
  · rename_i names listed
    exact ⟨names, listed, (Except.ok.inj found).symm⟩

theorem mem_results {names : List String} {result : Except DeviceFailure DeviceDescriptor} :
    result ∈ (names.filter isCardName).filterMap (result? files root) ↔
      ∃ card ∈ names, isCardName card ∧ result? files root card = some result := by
  simp only [List.mem_filterMap, List.mem_filter, and_assoc]

end Attributes

namespace InventoryDevice

variable {entry : InventoryDevice}

theorem descriptor_eq_ok {descriptor : DeviceDescriptor} (used : entry.descriptor = .ok descriptor) :
    descriptor.partition = entry.partition ∧
      ∀ config, entry.partition = some config → config.validate = .ok () := by
  unfold InventoryDevice.descriptor at used
  dsimp only at used
  split at used
  · cases used
  · split at used
    · cases used
    · split at used
      · cases used
      · rename_i valid
        cases used
        refine ⟨rfl, fun config divided => ?_⟩
        cases checked : config.validate with
        | error failure => exact absurd (by rw [divided, Option.map_some, checked]) (valid failure)
        | ok => rfl

/-- A division that is not valid makes the entry a failure, if nothing else does. -/
theorem descriptor_of_invalid {config : PartitionConfig} {failure : Failure}
    (divided : entry.partition = some config) (invalid : config.validate = .error failure) :
    ∃ reason, entry.descriptor = .error { device := entry.device, reason } := by
  unfold InventoryDevice.descriptor
  dsimp only
  split
  · exact ⟨_, rfl⟩
  · split
    · exact ⟨_, rfl⟩
    · rw [divided, Option.map_some, invalid]
      exact ⟨_, rfl⟩

end InventoryDevice

namespace Inventory

theorem discover_eq_ok {files : FileTree} {path : String} {report : DiscoveryReport}
    (found : discover files path = .ok report) : ∃ text inventory,
      files.readText path = .ok text ∧ parse? text = some inventory ∧
        report = inventory.report := by
  unfold discover at found
  split at found
  · cases found
  · cases found
  · rename_i text read
    split at found
    · rename_i inventory parsed
      exact ⟨text, inventory, read, parsed, (Except.ok.inj found).symm⟩
    · cases found

end Inventory

end GpuSharing
