import GpuSharing.Allocation
import GpuSharing.Proofs.Json.Record
import GpuSharing.Proofs.Json.RoundTrip
import GpuSharing.Proofs.Time.Rfc3339

/-!
# Stored allocations

Whoever stores the text of an allocation and hands it back hands back the same allocation. Nor
does it matter if the fields have been put in another order since, or others been added.
-/

set_option autoImplicit false

namespace GpuSharing

section Parts

theorem Timestamp.ofJson?_toJson {time : Timestamp} (ordinary : time.IsOrdinary) :
    ofJson? time.toJson = some time := by
  rw [ofJson?, toJson, Json.string?, Option.bind_some, ofRfc3339?_toRfc3339 ordinary]

theorem Timestamp.toJson_ne_null (time : Timestamp) : time.toJson ≠ .null := nofun

theorem Share.ofJson?_toJson (share : Share) : ofJson? share.toJson = some share := by
  rw [ofJson?, toJson, Json.uint32?_ofNat, Option.map_some]

theorem IsolationType.ofJson?_toJson (isolation : IsolationType) :
    ofJson? isolation.toJson = some isolation := by
  cases isolation <;> decide

theorem AllocationStatus.ofJson?_toJson (status : AllocationStatus) :
    ofJson? status.toJson = some status := by
  cases status <;> decide

end Parts

namespace Workload

theorem ofJson?_of_holds {workload : Workload} {json : Json}
    (holds : json.Holds fieldNames workload.fields) : ofJson? json = some workload := by
  obtain ⟨record, read, found, -⟩ := holds.record? (.refl _) (by decide)
  have text {name value : String} (listed : (name, .string value) ∈ workload.fields) :
      record.required? name Json.string? = some value :=
    Json.Record.required?_of_field? (found name _ listed) rfl
  have pod : record.required? "podName" Json.string? = some workload.pod :=
    text (by simp [fields])
  have space : record.required? "namespace" Json.string? = some workload.space :=
    text (by simp [fields])
  have container : record.required? "containerName" Json.string? = some workload.container :=
    text (by simp [fields])
  simp [ofJson?, read, pod, space, container]

theorem holds_toJson (workload : Workload) : workload.toJson.Holds fieldNames workload.fields :=
  Json.holds_object

end Workload

namespace GpuAllocation

variable {allocation : GpuAllocation} {json workload : Json}

/-- The text that an allocation is stored as. -/
def text (allocation : GpuAllocation) : String := allocation.toJson.compact

def ofText? (text : String) : Option GpuAllocation := (Json.parse? text).bind ofJson?

/-- Objects with the fields that an allocation is stored with, in any order and among others. So
it is with the object of its workload in it. -/
inductive StoredAs (allocation : GpuAllocation) : Json → Prop where
  | fields {workload json : Json} :
      workload.Holds Workload.fieldNames allocation.workload.fields →
      json.Holds fieldNames (allocation.fieldsWith workload) → StoredAs allocation json

section Fields

theorem names_fieldsWith :
    ((allocation.fieldsWith workload).map (·.1)).Sublist fieldNames := by
  unfold fieldsWith
  split
  · exact List.sublist_append_left _ ["xcdIndices"]
  · exact .refl _

theorem storedAs_toJson (allocation : GpuAllocation) : allocation.StoredAs allocation.toJson :=
  .fields allocation.workload.holds_toJson Json.holds_object

end Fields

theorem ofJson?_of_storedAs (created : allocation.createdAt.IsOrdinary)
    (expires : ∀ time ∈ allocation.expiresAt, time.IsOrdinary) (stored : allocation.StoredAs json) :
    ofJson? json = some allocation := by
  obtain ⟨ownWorkload, own⟩ := stored
  rename_i stored
  obtain ⟨record, read, found, missing⟩ := own.record? names_fieldsWith (by decide)
  have field {α : Type} {decode : Json → Option α} {result : α} (name : String) (value : Json)
      (listed : (name, value) ∈ allocation.fieldsWith stored)
      (back : decode value = some result) : record.required? name decode = some result :=
    Json.Record.required?_of_field? (found name value listed) back
  have id : record.required? "id" Json.string? = some allocation.id :=
    field "id" (.string allocation.id) (by simp [fieldsWith]) rfl
  have device : record.required? "deviceId" Json.string? = some allocation.device :=
    field "deviceId" (.string allocation.device) (by simp [fieldsWith]) rfl
  have workload := field "workload" _ (by simp [fieldsWith]) (Workload.ofJson?_of_holds ownWorkload)
  have share := field "share" _ (by simp [fieldsWith]) allocation.share.ofJson?_toJson
  have memory := field "memoryMib" _ (by simp [fieldsWith])
    (Json.uint64?_ofUInt64 allocation.memoryMib)
  have isolation := field "isolationType" _ (by simp [fieldsWith])
    allocation.isolation.ofJson?_toJson
  have sharing : record.required? "sharingEnabled" Json.bool? = some allocation.sharing :=
    field "sharingEnabled" (.bool allocation.sharing) (by simp [fieldsWith]) rfl
  have status := field "status" _ (by simp [fieldsWith]) allocation.status.ofJson?_toJson
  have createdAt := field "createdAt" _ (by simp [fieldsWith]) (Timestamp.ofJson?_toJson created)
  have expiresAt : record.optional? "expiresAt" Timestamp.ofJson? = some allocation.expiresAt :=
    Json.Record.optional?_of_field?
      (found "expiresAt" (.ofOption Timestamp.toJson allocation.expiresAt) (by simp [fieldsWith]))
      (Json.nullable?_ofOption (fun time => Timestamp.toJson_ne_null time) fun time given =>
        Timestamp.ofJson?_toJson (expires time given))
  have dies : record.defaulted? "xcdIndices" [] (Json.list? Json.uint8?) = some allocation.dies := by
    rw [Json.Record.defaulted?]
    -- An empty list is not written, and what is missing reads as an empty list.
    by_cases none : allocation.dies = []
    · rw [missing "xcdIndices" (by simp [fieldsWith, none]), none]
    · rw [found "xcdIndices" (.ofList (fun die => .ofNat die.toNat) allocation.dies)
        (by simp [fieldsWith, none])]
      exact Json.list?_ofList fun die _ => Json.uint8?_ofNat die
  simp only [ofJson?, read, Option.bind_eq_bind, Option.bind_some, id, device, workload, share,
    memory, isolation, sharing, status, createdAt, expiresAt, dies]
  rfl

theorem isExact_toJson (allocation : GpuAllocation) : allocation.toJson.isExact := by
  have share : allocation.share.toJson.isExact :=
    Json.isExact_ofNat (allocation.share.millis.toNat_lt.trans (by decide))
  have dies : (Json.ofList (fun die => .ofNat die.toNat) allocation.dies).isExact :=
    Json.isExact_ofList fun die => Json.isExact_ofNat (die.toNat_lt.trans (by decide))
  refine Json.membersExact_iff.mpr fun member listed => ?_
  simp only [fieldsWith, List.mem_append, List.mem_cons, List.not_mem_nil, or_false] at listed
  rcases listed with
    (rfl | rfl | rfl | rfl | rfl | rfl | rfl | rfl | rfl | rfl) | divided
  · rfl
  · rfl
  · rfl
  · exact share
  · exact Json.isExact_ofUInt64 allocation.memoryMib
  · rfl
  · rfl
  · rfl
  · rfl
  · exact Json.isExact_ofOption fun time => rfl
  · split at divided
    · cases divided
    · rw [List.mem_singleton.mp divided]
      exact dies

theorem ofText?_of_storedAs (created : allocation.createdAt.IsOrdinary)
    (expires : ∀ time ∈ allocation.expiresAt, time.IsOrdinary) (stored : allocation.StoredAs json)
    {text : String} (read : Json.parse? text = some json) : ofText? text = some allocation := by
  rw [ofText?, read, Option.bind_some, ofJson?_of_storedAs created expires stored]

/-- An allocation is read back from its text. It is read from every text, too, that stands for
an object with the same fields in another order and with others added, which is so for the compact
text of that object unless a double is among the fields added. -/
theorem ofText?_text (created : allocation.createdAt.IsOrdinary)
    (expires : ∀ time ∈ allocation.expiresAt, time.IsOrdinary) :
    ofText? allocation.text = some allocation ∧
      ∀ json, allocation.StoredAs json →
        (∀ text, Json.parse? text = some json → ofText? text = some allocation) ∧
        (json.isExact → ofText? json.compact = some allocation) :=
  ⟨ofText?_of_storedAs created expires allocation.storedAs_toJson
      (Json.parse?_compact allocation.isExact_toJson),
    fun _ stored => ⟨fun _ => ofText?_of_storedAs created expires stored,
      fun exact => ofText?_of_storedAs created expires stored (Json.parse?_compact exact)⟩⟩

/-- An allocation with the greatest numbers, the first of all times and a name full of marks. -/
def ancient : GpuAllocation :=
  { id := "a \"b\" \\c\n\x01 é"
    device := ""
    workload := { pod := "train\t0", space := "a/b" }
    share := ⟨4294967295⟩
    memoryMib := 18446744073709551615
    isolation := .timeSlice
    sharing := true
    status := .expired
    createdAt := .earliest
    expiresAt := some ⟨Timestamp.latest.seconds, 1500000⟩
    dies := [0, 255] }

/-- Its fields from the last to the first, and one that is unknown in each of the two objects. -/
def rearranged : Json :=
  let workload := Json.object (ancient.workload.fields ++ [("zone", Json.bool true)]).reverse
  .object (ancient.fieldsWith workload ++ [("note", Json.array [.null, .string "]"])]).reverse

theorem ofText?_ancient :
    (ancient.createdAt.IsOrdinary ∧ ∀ time ∈ ancient.expiresAt, time.IsOrdinary) ∧
      ancient.StoredAs rearranged ∧ ofText? ancient.text = some ancient ∧
        ofText? rearranged.compact = some ancient := by
  have created : ancient.createdAt.IsOrdinary := by decide
  have expires : ∀ time ∈ ancient.expiresAt, time.IsOrdinary := by
    intro time given
    rw [← Option.some.inj given]
    decide
  have stored : ancient.StoredAs rearranged :=
    .fields (.object (List.reverse_perm _) (List.forall_mem_singleton.mpr (by decide)))
      (.object (List.reverse_perm _) (List.forall_mem_singleton.mpr (by decide)))
  obtain ⟨back, again⟩ := ofText?_text created expires
  exact ⟨⟨created, expires⟩, stored, back, (again rearranged stored).2 (by decide)⟩

end GpuAllocation

end GpuSharing
