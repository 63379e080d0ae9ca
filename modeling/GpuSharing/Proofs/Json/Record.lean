import GpuSharing.Json.Record
import GpuSharing.Proofs.Naming

/-!
# Records in objects

An object holds a record if it has the fields of the record. Their order, and what members of
unknown names there are, makes no difference to what is read.
-/

set_option autoImplicit false

namespace GpuSharing.Json

section Fields

variable {names : List String} {fields : List (String × Json)}

/-- The object has these fields and no others of known names, in any order. -/
inductive Holds (names : List String) (fields : List (String × Json)) : Json → Prop where
  | object {members others : List (String × Json)} : members.Perm (fields ++ others) →
      (∀ other ∈ others, other.1 ∉ names) → Holds names fields (.object members)

theorem holds_object : Holds names fields (.object fields) :=
  .object (.of_eq (List.append_nil fields).symm) nofun

/-- What is left of the members once the unknown ones are dropped. -/
theorem filter_known {members others : List (String × Json)}
    (same : members.Perm (fields ++ others)) (known : ∀ field ∈ fields, field.1 ∈ names)
    (unknown : ∀ other ∈ others, other.1 ∉ names) :
    (members.filter fun member => names.contains member.1).Perm fields := by
  have own : fields.filter (fun member => names.contains member.1) = fields :=
    List.filter_eq_self.mpr fun field listed => by simpa using known field listed
  have foreign : others.filter (fun member => names.contains member.1) = [] :=
    List.filter_eq_nil_iff.mpr fun other listed => by simpa using unknown other listed
  have kept := same.filter fun member => names.contains member.1
  rwa [List.filter_append, own, foreign, List.append_nil] at kept

/-- Fields given once each are found by their names, and no others are. -/
theorem Holds.record? {json : Json} (holds : Holds names fields json)
    (known : (fields.map (·.1)).Sublist names) (distinct : names.Nodup) :
    ∃ record, json.record? names = some record ∧
      (∀ name value, (name, value) ∈ fields → record.field? name = some value) ∧
      ∀ name, name ∉ fields.map (·.1) → record.field? name = none := by
  obtain ⟨same, unknown⟩ := holds
  rename_i members others
  replace distinct := known.nodup distinct
  replace same := filter_known same
    (fun _ listed => known.subset (List.mem_map_of_mem listed)) unknown
  have once (name : String) :=
    length_filter_named_le ((same.map (·.1)).nodup_iff.mpr distinct) name
  refine ⟨⟨false, members.filter fun member => names.contains member.1⟩, ?_,
    fun name value listed => ?_, fun name unlisted => ?_⟩
  · rw [Json.record?, if_pos (List.all_eq_true.mpr fun name _ => decide_eq_true (once name))]
  · rw [Record.field?, find?_named_perm distinct same, find?_named distinct listed,
      Option.map_some]
  · rw [Record.field?, find?_named_perm distinct same, List.find?_eq_none.mpr, Option.map_none]
    rintro field listed named
    exact unlisted (of_decide_eq_true named ▸ List.mem_map_of_mem listed)

end Fields

section Lookups

variable {α : Type} {record : Record} {name : String} {value : Json} {decode : Json → Option α}

theorem Record.required?_of_field? {result : α} (found : record.field? name = some value)
    (back : decode value = some result) : record.required? name decode = some result := by
  rw [required?, found, Option.bind_some, back]

theorem Record.optional?_of_field? {result : Option α} (found : record.field? name = some value)
    (back : value.nullable? decode = some result) :
    record.optional? name decode = some result := by
  rw [optional?, found]
  exact back

end Lookups

section Words

theorem uint64?_ofUInt64 (value : UInt64) : (ofUInt64 value).uint64? = some value := by
  have bound : value.toNat < UInt64.size := value.toNat_lt
  simp [uint64?, ofUInt64, bound]

theorem uint32?_ofNat (value : UInt32) : (ofNat value.toNat).uint32? = some value := by
  have bound : value.toNat < UInt32.size := value.toNat_lt
  simp [uint32?, ofNat, bound]

theorem uint8?_ofNat (value : UInt8) : (ofNat value.toNat).uint8? = some value := by
  have bound : value.toNat < UInt8.size := value.toNat_lt
  simp [uint8?, ofNat, bound]

end Words

section Parts

variable {α : Type} {encode : α → Json} {decode : Json → Option α}

theorem list?_ofList {values : List α} (back : ∀ value ∈ values, decode (encode value) = some value) :
    (ofList encode values).list? decode = some values := by
  simp only [ofList, list?]
  induction values with
  | nil => rfl
  | cons value values ih =>
      rw [List.forall_mem_cons] at back
      simp [back.1, ih back.2]

theorem nullable?_ofOption {value : Option α} (solid : ∀ inner, encode inner ≠ .null)
    (back : ∀ inner ∈ value, decode (encode inner) = some inner) :
    (ofOption encode value).nullable? decode = some value := by
  cases value with
  | none => rfl
  | some inner =>
      rw [ofOption, nullable?, back inner rfl, Option.map_some]
      exact solid inner

end Parts

end GpuSharing.Json
