import GpuSharing.Proofs.Discovery.Results
import GpuSharing.Proofs.Service.Rejection

/-!
# Devices that are divided in ways that do not go together

The management tool and the attribute files name the two modes of a card by texts, and an
inventory writes its division down. Divisions that cannot be understood make a card a failure,
in each of the three. A division that can be understood is checked only in an inventory. So a
device that the engine cannot allocate on is reported exactly where the tool or the attribute
files name SPX together with NPS4, and such devices are what a sync rejects.
-/

set_option autoImplicit false

namespace GpuSharing

namespace PartitionConfig

theorem validate_eq_ok {config : PartitionConfig} : config.validate = .ok () ↔
    config.dies.toNat = dieCount ∧
      ¬(config.computeMode = .spx ∧ config.memoryMode = .nps4) := by
  unfold validate
  rw [Outcome.bind_eq_ok]
  simp only [require_eq_ok, exists_const]

/-- What the names of the two modes say of a division. Without a compute mode there is none, and
without a memory mode the memory is undivided. -/
def ofNames (compute memory : Option String) : Except AllocationError (Option PartitionConfig) :=
  match compute with
  | none => .ok none
  | some compute => do
      let computeMode ← ComputeMode.ofText compute
      let memoryMode ← match memory with
        | some memory => MemoryMode.ofText memory
        | none => .ok .nps1
      pure (some { computeMode, memoryMode })

/-- The names are those of the two modes that do not go together. -/
def NamesClash (compute memory : Option String) : Prop :=
  ∃ computeName memoryName, compute = some computeName ∧ memory = some memoryName ∧
    ComputeMode.ofText computeName = .ok .spx ∧ MemoryMode.ofText memoryName = .ok .nps4

theorem ofNames_invalid_iff {compute memory : Option String} {division : Option PartitionConfig}
    (understood : ofNames compute memory = .ok division) :
    (∃ config, division = some config ∧ config.validate ≠ .ok ()) ↔ NamesClash compute memory := by
  unfold ofNames at understood
  cases compute with
  | none =>
      cases understood
      simp [NamesClash]
  | some computeName =>
      cases read : ComputeMode.ofText computeName with
      | error error => simp [read, bind, Except.bind] at understood
      | ok computeMode =>
          cases memory with
          | none =>
              simp only [read, bind, Except.bind, pure, Except.pure, Except.ok.injEq] at understood
              subst understood
              simp [NamesClash, validate_eq_ok, dieCount]
          | some memoryName =>
              cases readMemory : MemoryMode.ofText memoryName with
              | error error => simp [read, readMemory, bind, Except.bind] at understood
              | ok memoryMode =>
                  simp only [read, readMemory, bind, Except.bind, pure, Except.pure,
                    Except.ok.injEq] at understood
                  subst understood
                  simp [NamesClash, validate_eq_ok, dieCount, read, readMemory]

/-- The names are understood. -/
theorem NamesClash.understood {compute memory : Option String} (apart : NamesClash compute memory) :
    ∃ division, ofNames compute memory = .ok division := by
  obtain ⟨computeName, memoryName, rfl, rfl, whole, quarters⟩ := apart
  refine ⟨some { computeMode := .spx, memoryMode := .nps4 }, ?_⟩
  unfold ofNames
  simp only [whole, quarters]
  rfl

end PartitionConfig

theorem ToolReport.partition_eq (fields : Fields) : partition fields =
    PartitionConfig.ofNames (text? fields computeKeys) (text? fields memoryModeKeys) := by
  unfold partition PartitionConfig.ofNames
  cases text? fields computeKeys with
  | none => rfl
  | some compute => rfl

/-- An entry with a memory total is a device if the names of its modes are understood, and a
failure if not. -/
theorem ToolReport.ofEntry_of_sized (card : String) {fields : Fields}
    (sized : (bytes? fields memoryTotalKeys).isSome) :
    (∃ descriptor, ofEntry card (.object fields) = .ok descriptor ∧ descriptor.device = card ∧
      PartitionConfig.ofNames (text? fields computeKeys) (text? fields memoryModeKeys) =
        .ok descriptor.partition) ∨
    ∃ reason, PartitionConfig.ofNames (text? fields computeKeys) (text? fields memoryModeKeys) =
        .error reason ∧
      ofEntry card (.object fields) = .error { device := card, reason := reason.message } := by
  rw [ofEntry, ← partition_eq]
  rcases ofFields_cases card fields with
    ⟨unsized, _⟩ | ⟨_, ⟨reason, unclear, refused⟩ | ⟨_, descriptor, clear, used, same, rfl⟩⟩
  · rw [unsized] at sized
    cases sized
  · exact .inr ⟨reason, unclear, by rw [refused]; rfl⟩
  · exact .inl ⟨descriptor, by rw [used]; rfl, same, clear⟩

theorem ToolReport.ofEntry_eq_ok {card : String} {json : Json} {descriptor : DeviceDescriptor}
    (read : ofEntry card json = .ok descriptor) : ∃ fields, json = .object fields ∧
      (bytes? fields memoryTotalKeys).isSome ∧ descriptor.device = card ∧
      PartitionConfig.ofNames (text? fields computeKeys) (text? fields memoryModeKeys) =
        .ok descriptor.partition := by
  cases json with
  | object fields =>
      cases sized : (bytes? fields memoryTotalKeys).isSome with
      | true =>
          rcases ofEntry_of_sized card sized with ⟨found, used, same, clear⟩ | ⟨_, _, refused⟩
          · cases used.symm.trans read
            exact ⟨fields, rfl, sized, same, clear⟩
          · rw [refused] at read
            cases read
      | false =>
          rcases ofFields_cases card fields with ⟨_, refused⟩ | ⟨known, _⟩
          · rw [ofEntry, refused] at read
            cases read
          · rw [sized] at known
            cases known
  | null | bool | integer | float | string | array | unreadable => cases read

theorem Attributes.partition_cases (files : FileTree) (place : String)
    {compute memory : Option String}
    (computeText : text? files (joinPath place "current_compute_partition") = compute)
    (memoryText : text? files (joinPath place "current_memory_partition") = memory) :
    (∃ division, PartitionConfig.ofNames compute memory = .ok division ∧
      partition files place = .ok division) ∨
    ∃ reason path, PartitionConfig.ofNames compute memory = .error reason ∧
      partition files place = .error (.parse path reason.message) := by
  unfold partition mode? PartitionConfig.ofNames
  rw [computeText, memoryText]
  cases compute with
  | none => exact .inl ⟨none, rfl, rfl⟩
  | some computeName =>
      dsimp only
      cases ComputeMode.ofText computeName with
      | error reason => exact .inr ⟨reason, _, rfl, rfl⟩
      | ok computeMode =>
          cases memory with
          | none => exact .inl ⟨_, rfl, rfl⟩
          | some memoryName =>
              dsimp only
              cases MemoryMode.ofText memoryName with
              | error reason => exact .inr ⟨reason, _, rfl, rfl⟩
              | ok memoryMode => exact .inl ⟨_, rfl, rfl⟩

/-- A card with a directory and a memory total is a device if the names of its modes are
understood, and a failure if not. -/
theorem Attributes.result?_of_sized {files : FileTree} {root card : String}
    (there : files.leads (directory root card))
    (sized : (bytes files (joinPath (directory root card) "mem_info_vram_total")).isOk) :
    (∃ descriptor, result? files root card = some (.ok descriptor) ∧ descriptor.device = card ∧
      PartitionConfig.ofNames
          (text? files (joinPath (directory root card) "current_compute_partition"))
          (text? files (joinPath (directory root card) "current_memory_partition")) =
        .ok descriptor.partition) ∨
    ∃ reason told, PartitionConfig.ofNames
          (text? files (joinPath (directory root card) "current_compute_partition"))
          (text? files (joinPath (directory root card) "current_memory_partition")) =
        .error reason ∧
      result? files root card = some (.error { device := card, reason := told }) := by
  rcases readCard_cases files root card with ⟨gone, _⟩ | ⟨_, ⟨error, unsized, _⟩ |
    ⟨_, ⟨error, unread, refused⟩ | ⟨_, descriptor, read, used, same, rfl⟩⟩⟩
  · rw [gone] at there
    cases there
  · rw [unsized] at sized
    cases sized
  · rcases partition_cases files (directory root card) rfl rfl with
      ⟨division, _, read⟩ | ⟨reason, path, unclear, told⟩
    · rw [unread] at read
      cases read
    · rw [unread] at told
      cases told
      exact .inr ⟨reason, _, unclear, result?_of_error refused (fun _ same => by cases same)⟩
  · rcases partition_cases files (directory root card) rfl rfl with
      ⟨_, clear, again⟩ | ⟨reason, path, _, told⟩
    · cases read.symm.trans again
      exact .inl ⟨descriptor, result?_eq_ok.mpr used, same, clear⟩
    · rw [read] at told
      cases told

theorem Attributes.readCard_eq_ok {files : FileTree} {root card : String}
    {descriptor : DeviceDescriptor} (read : readCard files root card = .ok descriptor) :
    files.leads (directory root card) ∧
      (bytes files (joinPath (directory root card) "mem_info_vram_total")).isOk ∧
      descriptor.device = card ∧ PartitionConfig.ofNames
          (text? files (joinPath (directory root card) "current_compute_partition"))
          (text? files (joinPath (directory root card) "current_memory_partition")) =
        .ok descriptor.partition := by
  have listed := result?_eq_ok.mpr read
  rcases readCard_cases files root card with
    ⟨_, refused⟩ | ⟨there, ⟨_, _, refused⟩ | ⟨sized, _⟩⟩
  · rw [refused] at read
    cases read
  · rw [refused] at read
    cases read
  · rcases result?_of_sized there sized with ⟨found, again, same, clear⟩ | ⟨_, _, _, failed⟩
    · cases again.symm.trans listed
      exact ⟨there, sized, same, clear⟩
    · rw [failed] at listed
      cases listed

/-- Where a node learns of its devices. -/
inductive Origin where
  /-- What the management tool writes. -/
  | tool (output : String)
  | attributes (files : FileTree) (root : String)
  | inventory (files : FileTree) (path : String)

namespace Origin

def discover : Origin → Discovery
  | tool output => ToolReport.parse output
  | attributes files root => Attributes.discover files root
  | inventory files path => Inventory.discover files path

/-- All that has to be known of a card can be read, but for its modes, and these are named. -/
inductive Names : Origin → String → Option String → Option String → Prop
  | tool {output card : String} {members fields : List (String × Json)}
      (written : Json.parse? output = some (.object members)) (named : ToolReport.isCard card)
      (entry : Json.lastMember? members card = some (.object fields))
      (sized : (ToolReport.bytes? fields ToolReport.memoryTotalKeys).isSome) :
      Names (tool output) card (ToolReport.text? fields ToolReport.computeKeys)
        (ToolReport.text? fields ToolReport.memoryModeKeys)
  | attributes {files : FileTree} {root card : String} {names : List String}
      (listed : files.listNames root = .ok names) (member : card ∈ names)
      (named : Attributes.isCardName card)
      (there : files.leads (Attributes.directory root card))
      (sized : (Attributes.bytes files
        (joinPath (Attributes.directory root card) "mem_info_vram_total")).isOk) :
      Names (attributes files root) card
        (Attributes.text? files
          (joinPath (Attributes.directory root card) "current_compute_partition"))
        (Attributes.text? files
          (joinPath (Attributes.directory root card) "current_memory_partition"))

/-- The modes that are named of the card do not go together. -/
def Clashes (origin : Origin) (card : String) : Prop :=
  ∃ compute memory, origin.Names card compute memory ∧ PartitionConfig.NamesClash compute memory

section Reports

variable {origin : Origin} {report : DiscoveryReport} {card : String}
  {compute memory : Option String}

theorem Names.unique {otherCompute otherMemory : Option String}
    (names : origin.Names card compute memory)
    (again : origin.Names card otherCompute otherMemory) :
    otherCompute = compute ∧ otherMemory = memory := by
  cases names with
  | tool written named entry sized =>
      cases again with
      | tool writtenAgain _ entryAgain _ =>
          cases written.symm.trans writtenAgain
          cases entry.symm.trans entryAgain
          exact ⟨rfl, rfl⟩
  | attributes =>
      cases again
      exact ⟨rfl, rfl⟩

/-- A card whose modes are named is a device if they can be understood, and a failure if not. -/
theorem Names.outcome (names : origin.Names card compute memory)
    (found : origin.discover = .ok report) :
    (∃ descriptor ∈ report.devices, descriptor.device = card ∧
      PartitionConfig.ofNames compute memory = .ok descriptor.partition) ∨
    ∃ reason, PartitionConfig.ofNames compute memory = .error reason ∧
      report.TellsFailure card := by
  cases names with
  | tool written named entry sized =>
      obtain ⟨_, again, rfl⟩ := ToolReport.parse_eq_ok found
      cases written.symm.trans again
      rcases ToolReport.ofEntry_of_sized card sized with
        ⟨descriptor, read, same, clear⟩ | ⟨reason, unclear, failed⟩
      · exact .inl ⟨descriptor, DiscoveryReport.mem_devices_ofResults.mpr
          (ToolReport.mem_results.mpr ⟨card, _, named, entry, read.symm⟩), same, clear⟩
      · exact .inr ⟨reason, unclear,
          List.mem_map_of_mem (DiscoveryReport.mem_failures_ofResults.mpr
            (ToolReport.mem_results.mpr ⟨card, _, named, entry, failed.symm⟩))⟩
  | attributes listed member named there sized =>
      obtain ⟨_, again, rfl⟩ := Attributes.discover_eq_ok found
      cases listed.symm.trans again
      rcases Attributes.result?_of_sized there sized with
        ⟨descriptor, read, same, clear⟩ | ⟨reason, told, unclear, failed⟩
      · exact .inl ⟨descriptor, DiscoveryReport.mem_devices_ofResults.mpr
          (Attributes.mem_results.mpr ⟨card, member, named, read⟩), same, clear⟩
      · exact .inr ⟨reason, unclear,
          List.mem_map_of_mem (DiscoveryReport.mem_failures_ofResults.mpr
            (Attributes.mem_results.mpr ⟨card, member, named, failed⟩))⟩

/-- A device of a report has modes that are named and can be understood, or comes from an
inventory, which names none. -/
theorem reported_cases (found : origin.discover = .ok report) {descriptor : DeviceDescriptor}
    (member : descriptor ∈ report.devices) :
    (∃ compute memory, origin.Names descriptor.device compute memory ∧
      PartitionConfig.ofNames compute memory = .ok descriptor.partition) ∨
    descriptor.Allocatable ∧ ∀ card compute memory, ¬origin.Names card compute memory := by
  cases origin with
  | tool output =>
      obtain ⟨members, written, rfl⟩ := ToolReport.parse_eq_ok found
      obtain ⟨card, json, named, entry, read⟩ :=
        ToolReport.mem_results.mp (DiscoveryReport.mem_devices_ofResults.mp member)
      obtain ⟨fields, rfl, sized, rfl, clear⟩ := ToolReport.ofEntry_eq_ok read.symm
      exact .inl ⟨_, _, .tool written named entry sized, clear⟩
  | attributes files root =>
      obtain ⟨cards, listed, rfl⟩ := Attributes.discover_eq_ok found
      obtain ⟨card, there, named, result⟩ :=
        Attributes.mem_results.mp (DiscoveryReport.mem_devices_ofResults.mp member)
      obtain ⟨placed, sized, rfl, clear⟩ :=
        Attributes.readCard_eq_ok (Attributes.result?_eq_ok.mp result)
      exact .inl ⟨_, _, .attributes listed there named placed sized, clear⟩
  | inventory files path =>
      obtain ⟨text, inventory, _, _, rfl⟩ := Inventory.discover_eq_ok found
      obtain ⟨entry, _, used⟩ := List.mem_map.mp (DiscoveryReport.mem_devices_ofResults.mp member)
      obtain ⟨same, valid⟩ := InventoryDevice.descriptor_eq_ok used
      refine .inr ⟨fun config divided => valid config (same ▸ divided), fun _ _ _ names => ?_⟩
      cases names

/-- The engine cannot allocate on a device that is reported exactly if its modes do not go
together. -/
theorem not_allocatable_iff (found : origin.discover = .ok report) {descriptor : DeviceDescriptor}
    (member : descriptor ∈ report.devices) :
    ¬descriptor.Allocatable ↔ origin.Clashes descriptor.device := by
  rcases reported_cases found member with ⟨compute, memory, names, clear⟩ | ⟨fits, unnamed⟩
  · have clash := PartitionConfig.ofNames_invalid_iff clear
    constructor
    · intro divided
      unfold DeviceDescriptor.Allocatable at divided
      push Not at divided
      exact ⟨compute, memory, names, clash.mp divided⟩
    · rintro ⟨_, _, again, apart⟩ fits
      obtain ⟨rfl, rfl⟩ := names.unique again
      obtain ⟨config, divided, invalid⟩ := clash.mpr apart
      exact invalid (fits config divided)
  · refine iff_of_false (not_not_intro fits) ?_
    rintro ⟨_, _, names, _⟩
    exact unnamed _ _ _ names

/-- The modes that are named of a card cannot be understood, or an inventory writes down a
division that is not valid. -/
inductive Refuses : Origin → String → Prop
  | unclear {origin : Origin} {card : String} {compute memory : Option String}
      {reason : AllocationError} (names : origin.Names card compute memory)
      (unclear : PartitionConfig.ofNames compute memory = .error reason) : Refuses origin card
  | invalid {files : FileTree} {path text : String} {inventory : Inventory}
      {entry : InventoryDevice} {config : PartitionConfig} {failure : Failure}
      (read : files.readText path = .ok text) (parsed : Inventory.parse? text = some inventory)
      (listed : entry ∈ inventory.devices) (divided : entry.partition = some config)
      (invalid : config.validate = .error failure) :
      Refuses (.inventory files path) entry.device

theorem tellsFailure_of_refuses (found : origin.discover = .ok report)
    (refused : origin.Refuses card) : report.TellsFailure card := by
  cases refused with
  | unclear names unclear =>
      rcases names.outcome found with ⟨_, _, _, clear⟩ | ⟨_, _, told⟩
      · rw [unclear] at clear
        cases clear
      · exact told
  | invalid read parsed listed divided invalid =>
      obtain ⟨_, _, readAgain, parsedAgain, rfl⟩ := Inventory.discover_eq_ok found
      cases read.symm.trans readAgain
      cases parsed.symm.trans parsedAgain
      obtain ⟨reason, failed⟩ := InventoryDevice.descriptor_of_invalid divided invalid
      exact List.mem_map_of_mem (DiscoveryReport.mem_failures_ofResults.mpr
        (List.mem_map.mpr ⟨_, listed, failed⟩))

/-- Modes that do not go together are understood all the same. -/
theorem Clashes.reported (clash : origin.Clashes card) (found : origin.discover = .ok report) :
    ∃ descriptor ∈ report.devices, descriptor.device = card := by
  obtain ⟨compute, memory, names, apart⟩ := clash
  rcases names.outcome found with ⟨descriptor, listed, same, _⟩ | ⟨_, unclear, _⟩
  · exact ⟨descriptor, listed, same⟩
  · obtain ⟨division, clear⟩ := apart.understood
    rw [unclear] at clear
    cases clear

theorem Refuses.not_clashes (refused : origin.Refuses card) : ¬origin.Clashes card := by
  rintro ⟨_, _, again, apart⟩
  cases refused with
  | unclear names unclear =>
      obtain ⟨rfl, rfl⟩ := names.unique again
      obtain ⟨division, clear⟩ := apart.understood
      rw [unclear] at clear
      cases clear
  | invalid => cases again

/-- A device that the engine cannot allocate on is reported exactly for the modes SPX and NPS4,
which only the tool and the attribute files let pass. Every other division that cannot be used
makes the device a failure. Where nothing is allocated, a sync that follows rejects exactly the
devices with these modes. -/
theorem reports_allocatable_iff_not_clashes (found : origin.discover = .ok report) :
    (∀ card, (∃ descriptor ∈ report.devices,
        descriptor.device = card ∧ ¬descriptor.Allocatable) ↔ origin.Clashes card) ∧
      (∀ card, origin.Refuses card → report.TellsFailure card ∧
        ∀ descriptor ∈ report.devices, descriptor.device = card → descriptor.Allocatable) ∧
      ∀ (setup : ServiceSetup) (operations : List AllocationService.Operation),
        (∀ device, (setup.service.run operations).list device = []) →
          ∀ (clock : Clock) (card : String), report.Lists card →
            (card ∈ (setup.service.run operations).rejectedAfter report clock ↔
              origin.Clashes card) := by
  refine ⟨fun card => ⟨?_, fun clash => ?_⟩, fun card refused =>
    ⟨tellsFailure_of_refuses found refused, ?_⟩, fun setup operations unused clock card lists => ?_⟩
  · rintro ⟨descriptor, listed, rfl, unfit⟩
    exact (not_allocatable_iff found listed).mp unfit
  · obtain ⟨descriptor, listed, rfl⟩ := clash.reported found
    exact ⟨descriptor, listed, rfl, (not_allocatable_iff found listed).mpr clash⟩
  · rintro descriptor listed rfl
    by_contra unfit
    exact refused.not_clashes ((not_allocatable_iff found listed).mp unfit)
  · have idle (device : String) :
        (setup.service.run operations).liveIn .partitionAware device = [] := by
      have empty := unused device
      rw [AllocationService.list_eq] at empty
      exact (List.append_eq_nil_iff.mp (List.append_eq_nil_iff.mp empty).2).1
    obtain ⟨descriptor, last⟩ :=
      Option.isSome_iff_exists.mp (DiscoveryReport.last?_isSome_iff.mpr lists)
    obtain ⟨listed, here⟩ := List.mem_filter.mp (List.mem_of_getLast? last)
    obtain rfl := of_decide_eq_true here
    rw [AllocationService.mem_rejectedAfter_iff idle
      (AllocationService.assessed_run setup operations) last clock]
    exact not_allocatable_iff found listed

end Reports

/-- Every device that is found there can be allocated on. -/
def FindsAllocatable (origin : Origin) : Prop :=
  ∀ report, origin.discover = .ok report →
    ∀ descriptor ∈ report.devices, descriptor.Allocatable

/-- The tool names SPX and NPS4 of the only card. -/
def wholeInQuarters : Origin :=
  .tool ("\x7b\"card0\": \x7b\"VRAM Total Memory (B)\": \"8589934592\", " ++
    "\"Compute Partition\": \"SPX\", \"Memory Partition\": \"NPS4\"\x7d\x7d")

theorem discover_wholeInQuarters : ∃ report descriptor,
    wholeInQuarters.discover = .ok report ∧ descriptor ∈ report.devices ∧
      descriptor.device = "card0" ∧
      descriptor.partition = some { computeMode := .spx, memoryMode := .nps4 } := by
  have divided : (wholeInQuarters.discover.toOption.bind fun report =>
      report.devices.head?.map fun descriptor => (descriptor.device, descriptor.partition)) =
        some ("card0", some { computeMode := .spx, memoryMode := .nps4 }) := by
    decide +kernel
  cases found : wholeInQuarters.discover with
  | error failure => simp [found, Except.toOption] at divided
  | ok report =>
      simp only [found, Except.toOption, Option.bind_some, Option.map_eq_some_iff, Prod.mk.injEq]
        at divided
      obtain ⟨descriptor, first, here, modes⟩ := divided
      exact ⟨report, descriptor, rfl, List.mem_of_head? first, here, modes⟩

theorem unfit_wholeInQuarters {descriptor : DeviceDescriptor}
    (modes : descriptor.partition = some { computeMode := .spx, memoryMode := .nps4 }) :
    ¬descriptor.Allocatable := fun fits =>
  (PartitionConfig.validate_eq_ok.mp (fits _ modes)).2 ⟨rfl, rfl⟩

theorem not_findsAllocatable_wholeInQuarters : ¬wholeInQuarters.FindsAllocatable := by
  intro finds
  obtain ⟨report, descriptor, found, listed, _, modes⟩ := discover_wholeInQuarters
  exact unfit_wholeInQuarters modes (finds report found descriptor listed)

/-- A new node that polls such a report rejects the card that it has just listed. -/
theorem rejected_wholeInQuarters : ∃ report, wholeInQuarters.discover = .ok report ∧
    report.Lists "card0" ∧ ∀ clock : Clock,
      "card0" ∈ (ServiceSetup.service {}).rejectedAfter report clock := by
  obtain ⟨report, descriptor, found, listed, here, modes⟩ := discover_wholeInQuarters
  obtain ⟨unfit, _, rejects⟩ := reports_allocatable_iff_not_clashes found
  have clash : wholeInQuarters.Clashes "card0" :=
    (unfit "card0").mp ⟨descriptor, listed, here, unfit_wholeInQuarters modes⟩
  have lists : report.Lists "card0" := here ▸ List.mem_map_of_mem listed
  have unused (device : String) :
      ((ServiceSetup.service {}).run []).list device = [] := rfl
  exact ⟨report, found, lists, fun clock => (rejects {} [] unused clock "card0" lists).mpr clash⟩

end Origin

end GpuSharing
