/-!
# Keyed collections

A collection with one value per key, kept in ascending order of its keys. Its
entries are determined by its look-ups, so two histories that agree on every
look-up have reached the same collection.
-/

set_option autoImplicit false

namespace GpuSharing

variable {α β : Type}

namespace Entries

def lookup? (key : String) : List (String × α) → Option α
  | [] => none
  | entry :: rest => if entry.1 = key then some entry.2 else lookup? key rest

def insert (key : String) (value : α) : List (String × α) → List (String × α)
  | [] => [(key, value)]
  | entry :: rest =>
      if key < entry.1 then (key, value) :: entry :: rest
      else if key = entry.1 then (key, value) :: rest
      else entry :: insert key value rest

def Ascending (entries : List (String × α)) : Prop :=
  entries.Pairwise fun a b => a.1 < b.1

theorem mem_insert {key : String} {value : α} {entries : List (String × α)}
    {entry : String × α} (member : entry ∈ insert key value entries) :
    entry = (key, value) ∨ entry ∈ entries := by
  induction entries with
  | nil => simpa [insert] using member
  | cons head rest ih =>
      unfold insert at member
      split at member
      · simpa using member
      · split at member
        · rcases List.mem_cons.mp member with same | inRest
          · exact .inl same
          · exact .inr (List.mem_cons_of_mem _ inRest)
        · rcases List.mem_cons.mp member with same | inRest
          · exact .inr (same ▸ List.mem_cons_self)
          · exact (ih inRest).imp id (List.mem_cons_of_mem _)

theorem lt_of_not {a b : String} (notLess : ¬a < b) (different : a ≠ b) : b < a := by
  have ordered : b ≤ a := String.not_lt.mp notLess
  cases Classical.em (b < a) with
  | inl less => exact less
  | inr notBelow =>
      exact absurd (String.le_antisymm (String.not_lt.mp notBelow) ordered) different

theorem ascending_insert {key : String} {value : α} {entries : List (String × α)}
    (sorted : Ascending entries) : Ascending (insert key value entries) := by
  induction entries with
  | nil => exact List.pairwise_singleton _ _
  | cons head rest ih =>
      obtain ⟨headLess, restSorted⟩ := List.pairwise_cons.mp sorted
      unfold insert
      split
      · rename_i less
        refine List.pairwise_cons.mpr ⟨fun entry member => ?_, sorted⟩
        rcases List.mem_cons.mp member with rfl | inRest
        · exact less
        · exact String.lt_trans less (headLess _ inRest)
      · rename_i notLess
        split
        · rename_i same
          exact List.pairwise_cons.mpr ⟨fun entry member => same ▸ headLess _ member, restSorted⟩
        · rename_i different
          refine List.pairwise_cons.mpr ⟨fun entry member => ?_, ih restSorted⟩
          rcases mem_insert member with rfl | inRest
          · exact lt_of_not notLess different
          · exact headLess _ inRest

theorem lookup?_eq_none_of_lt {key : String} {entries : List (String × α)}
    (above : ∀ entry ∈ entries, key < entry.1) : lookup? key entries = none := by
  induction entries with
  | nil => rfl
  | cons head rest ih =>
      have different : head.1 ≠ key := fun same =>
        String.lt_irrefl key (same ▸ above head List.mem_cons_self)
      rw [lookup?, if_neg different]
      exact ih fun entry member => above entry (List.mem_cons_of_mem _ member)

theorem lookup?_insert {key : String} {value : α} (entries : List (String × α)) (other : String) :
    lookup? other (insert key value entries) =
      if other = key then some value else lookup? other entries := by
  induction entries with
  | nil =>
      by_cases same : other = key
      · simp [insert, lookup?, same]
      · simp [insert, lookup?, same, Ne.symm same]
  | cons head rest ih =>
      unfold insert
      split
      · by_cases same : other = key
        · simp [lookup?, same]
        · simp [lookup?, same, Ne.symm same]
      · split
        · rename_i equal
          by_cases same : other = key
          · simp [lookup?, same]
          · have headOther : head.1 ≠ other := fun h => same (h ▸ equal.symm)
            simp [lookup?, same, Ne.symm same, headOther]
        · rename_i different
          by_cases here : head.1 = other
          · have otherKey : other ≠ key := fun h => different (h ▸ here.symm)
            simp [lookup?, here, otherKey]
          · simp [lookup?, here, ih]

theorem lookup?_erase (key : String) (entries : List (String × α)) (other : String) :
    lookup? other (entries.filter fun entry => entry.1 ≠ key) =
      if other = key then none else lookup? other entries := by
  induction entries with
  | nil => simp [lookup?]
  | cons head rest ih =>
      by_cases same : head.1 = key
      · rw [List.filter_cons_of_neg (by simp [same]), ih]
        by_cases otherKey : other = key
        · simp [otherKey]
        · have headOther : head.1 ≠ other := fun h => otherKey (h ▸ same)
          simp [otherKey, lookup?, headOther]
      · rw [List.filter_cons_of_pos (by simp [same])]
        by_cases here : head.1 = other
        · have otherKey : other ≠ key := fun h => same (here.trans h)
          simp [lookup?, here, otherKey]
        · simpa [lookup?, here] using ih

theorem lookup?_mapKeyed (change : String → α → β) (entries : List (String × α)) (key : String) :
    lookup? key (entries.map fun entry => (entry.1, change entry.1 entry.2)) =
      (lookup? key entries).map (change key) := by
  induction entries with
  | nil => rfl
  | cons head rest ih =>
      by_cases here : head.1 = key
      · simp [lookup?, here]
      · simpa [lookup?, here] using ih

theorem mem_iff_lookup? {entries : List (String × α)} (sorted : Ascending entries) {key : String}
    {value : α} : (key, value) ∈ entries ↔ lookup? key entries = some value := by
  induction entries with
  | nil => simp [lookup?]
  | cons head rest ih =>
      obtain ⟨headLess, restSorted⟩ := List.pairwise_cons.mp sorted
      by_cases here : head.1 = key
      · have absent : (key, value) ∉ rest := fun member =>
          String.lt_irrefl key (here ▸ headLess (key, value) member)
        have shape : (key, value) = head ↔ head.2 = value :=
          ⟨fun same => same ▸ rfl, fun same => Prod.ext here.symm same.symm⟩
        simp [lookup?, here, absent, shape]
      · have different : (key, value) ≠ head := fun same => here (same ▸ rfl)
        simpa [lookup?, here, different] using ih restSorted

theorem lookup?_filter {entries : List (String × α)} (sorted : Ascending entries)
    (keep : String → α → Bool) (key : String) :
    lookup? key (entries.filter fun entry => keep entry.1 entry.2) =
      (lookup? key entries).filter (keep key) := by
  induction entries with
  | nil => rfl
  | cons head rest ih =>
      obtain ⟨headLess, restSorted⟩ := List.pairwise_cons.mp sorted
      by_cases here : head.1 = key
      · -- A key that is dropped here does not come again.
        subst here
        have gone : lookup? head.1 rest = none := lookup?_eq_none_of_lt headLess
        cases kept : keep head.1 head.2 with
        | true => simp [lookup?, Option.filter, kept]
        | false => simp [lookup?, Option.filter, ih restSorted, gone, kept]
      · cases kept : keep head.1 head.2 with
        | true => simpa [lookup?, here, kept] using ih restSorted
        | false => simpa [lookup?, here, kept] using ih restSorted

/-- What entries give that belongs to one key comes from the entry of that key, where each
of them gives only what belongs to its own. -/
theorem filter_flatMap {entries : List (String × α)} (sorted : Ascending entries)
    (items : α → List β) (place : β → String)
    (placed : ∀ entry ∈ entries, ∀ item ∈ items entry.2, place item = entry.1) (key : String) :
    ((entries.map (·.2)).flatMap items).filter (place · = key) =
      (lookup? key entries).elim [] items := by
  induction entries with
  | nil => rfl
  | cons head rest ih =>
      obtain ⟨headLess, restSorted⟩ := List.pairwise_cons.mp sorted
      have own := placed head List.mem_cons_self
      rw [List.map_cons, List.flatMap_cons, List.filter_append,
        ih restSorted fun entry member => placed entry (List.mem_cons_of_mem _ member)]
      by_cases here : head.1 = key
      · have gone : lookup? key rest = none := lookup?_eq_none_of_lt (here ▸ headLess)
        have all : (items head.2).filter (place · = key) = items head.2 :=
          List.filter_eq_self.mpr fun item member => by simp [own item member, here]
        simp [lookup?, here, gone, all]
      · have none : (items head.2).filter (place · = key) = [] :=
          List.filter_eq_nil_iff.mpr fun item member => by simp [own item member, here]
        simp [lookup?, here, none]

theorem ext {first second : List (String × α)} (firstSorted : Ascending first)
    (secondSorted : Ascending second)
    (agree : ∀ key, lookup? key first = lookup? key second) : first = second := by
  induction first generalizing second with
  | nil =>
      cases second with
      | nil => rfl
      | cons head rest => simpa [lookup?] using agree head.1
  | cons head rest ih =>
      obtain ⟨headLess, restSorted⟩ := List.pairwise_cons.mp firstSorted
      cases second with
      | nil => simpa [lookup?] using agree head.1
      | cons other others =>
          obtain ⟨otherLess, othersSorted⟩ := List.pairwise_cons.mp secondSorted
          have keys : head.1 = other.1 := by
            cases Classical.em (head.1 = other.1) with
            | inl same => exact same
            | inr different =>
                cases Classical.em (head.1 < other.1) with
                | inl less =>
                    have missing : lookup? head.1 (other :: others) = none :=
                      lookup?_eq_none_of_lt fun entry member => by
                        rcases List.mem_cons.mp member with rfl | inRest
                        · exact less
                        · exact String.lt_trans less (otherLess _ inRest)
                    have found := agree head.1
                    rw [missing] at found
                    simp [lookup?] at found
                | inr notLess =>
                    have less := lt_of_not notLess different
                    have missing : lookup? other.1 (head :: rest) = none :=
                      lookup?_eq_none_of_lt fun entry member => by
                        rcases List.mem_cons.mp member with rfl | inRest
                        · exact less
                        · exact String.lt_trans less (headLess _ inRest)
                    have found := agree other.1
                    rw [missing] at found
                    simp [lookup?] at found
          have values : head.2 = other.2 := by
            have found := agree head.1
            simpa [lookup?, keys] using found
          have rests : rest = others := ih restSorted othersSorted fun key => by
            by_cases here : head.1 = key
            · subst here
              rw [lookup?_eq_none_of_lt headLess, keys, lookup?_eq_none_of_lt otherLess]
            · have found := agree key
              simpa [lookup?, here, ← keys] using found
          rw [rests, Prod.ext keys values]

end Entries

structure Keyed (α : Type) where
  entries : List (String × α)
  ascending : Entries.Ascending entries

namespace Keyed

instance [DecidableEq α] : DecidableEq (Keyed α) := fun a b =>
  if same : a.entries = b.entries then
    isTrue (by cases a; cases b; cases same; rfl)
  else isFalse fun equal => same (congrArg entries equal)

instance [Repr α] : Repr (Keyed α) := ⟨fun keyed precedence => reprPrec keyed.entries precedence⟩

def empty : Keyed α := ⟨[], .nil⟩

instance : Inhabited (Keyed α) := ⟨empty⟩

def get? (keyed : Keyed α) (key : String) : Option α := Entries.lookup? key keyed.entries

def contains (keyed : Keyed α) (key : String) : Bool := (keyed.get? key).isSome

def insert (keyed : Keyed α) (key : String) (value : α) : Keyed α :=
  ⟨Entries.insert key value keyed.entries, Entries.ascending_insert keyed.ascending⟩

def erase (keyed : Keyed α) (key : String) : Keyed α :=
  ⟨keyed.entries.filter fun entry => entry.1 ≠ key, keyed.ascending.filter _⟩

def filter (keyed : Keyed α) (keep : String → α → Bool) : Keyed α :=
  ⟨keyed.entries.filter fun entry => keep entry.1 entry.2, keyed.ascending.filter _⟩

def mapKeyed (keyed : Keyed α) (change : String → α → β) : Keyed β :=
  ⟨keyed.entries.map fun entry => (entry.1, change entry.1 entry.2),
    List.pairwise_map.mpr (keyed.ascending.imp fun less => less)⟩

def map (keyed : Keyed α) (change : α → β) : Keyed β := keyed.mapKeyed fun _ => change

def modify (keyed : Keyed α) (key : String) (change : α → α) : Keyed α :=
  match keyed.get? key with
  | none => keyed
  | some value => keyed.insert key (change value)

def keys (keyed : Keyed α) : List String := keyed.entries.map (·.1)

def values (keyed : Keyed α) : List α := keyed.entries.map (·.2)

def size (keyed : Keyed α) : Nat := keyed.entries.length

@[simp] theorem get?_empty (key : String) : (empty : Keyed α).get? key = none := rfl

theorem get?_insert (keyed : Keyed α) (key : String) (value : α) (other : String) :
    (keyed.insert key value).get? other = if other = key then some value else keyed.get? other :=
  Entries.lookup?_insert keyed.entries other

@[simp] theorem get?_insert_self (keyed : Keyed α) (key : String) (value : α) :
    (keyed.insert key value).get? key = some value := by
  simp [get?_insert]

theorem get?_erase (keyed : Keyed α) (key other : String) :
    (keyed.erase key).get? other = if other = key then none else keyed.get? other :=
  Entries.lookup?_erase key keyed.entries other

theorem get?_modify (keyed : Keyed α) (key : String) (change : α → α) (other : String) :
    (keyed.modify key change).get? other =
      if other = key then (keyed.get? other).map change else keyed.get? other := by
  unfold modify
  cases found : keyed.get? key with
  | none =>
      by_cases same : other = key
      · simp [same, found]
      · simp [same]
  | some value =>
      by_cases same : other = key
      · simp [same, found]
      · simp [get?_insert, same]

theorem get?_map (keyed : Keyed α) (change : α → β) (key : String) :
    (keyed.map change).get? key = (keyed.get? key).map change :=
  Entries.lookup?_mapKeyed (fun _ => change) keyed.entries key

theorem get?_mapKeyed (keyed : Keyed α) (change : String → α → β) (key : String) :
    (keyed.mapKeyed change).get? key = (keyed.get? key).map (change key) :=
  Entries.lookup?_mapKeyed change keyed.entries key

theorem get?_filter (keyed : Keyed α) (keep : String → α → Bool) (key : String) :
    (keyed.filter keep).get? key = (keyed.get? key).filter (keep key) :=
  Entries.lookup?_filter keyed.ascending keep key

theorem mem_entries {keyed : Keyed α} {key : String} {value : α} :
    (key, value) ∈ keyed.entries ↔ keyed.get? key = some value :=
  Entries.mem_iff_lookup? keyed.ascending

theorem mem_keys {keyed : Keyed α} {key : String} :
    key ∈ keyed.keys ↔ ∃ value, keyed.get? key = some value := by
  unfold keys
  constructor
  · intro member
    obtain ⟨⟨_, value⟩, stored, rfl⟩ := List.mem_map.mp member
    exact ⟨value, mem_entries.mp stored⟩
  · rintro ⟨value, found⟩
    exact List.mem_map.mpr ⟨(key, value), mem_entries.mpr found, rfl⟩

theorem mem_values {keyed : Keyed α} {value : α} :
    value ∈ keyed.values ↔ ∃ key, keyed.get? key = some value := by
  unfold values
  constructor
  · intro member
    obtain ⟨⟨key, _⟩, found, rfl⟩ := List.mem_map.mp member
    exact ⟨key, mem_entries.mp found⟩
  · rintro ⟨key, found⟩
    exact List.mem_map.mpr ⟨(key, value), mem_entries.mpr found, rfl⟩

theorem nodup_keys (keyed : Keyed α) : keyed.keys.Nodup := by
  refine List.pairwise_map.mpr (keyed.ascending.imp ?_)
  intro first second less same
  exact String.lt_irrefl second.1 (same ▸ less)

theorem filter_flatMap_values (keyed : Keyed α) (items : α → List β) (place : β → String)
    (placed : ∀ key value, keyed.get? key = some value → ∀ item ∈ items value, place item = key)
    (key : String) :
    (keyed.values.flatMap items).filter (place · = key) = (keyed.get? key).elim [] items :=
  Entries.filter_flatMap keyed.ascending items place
    (fun entry member => placed entry.1 entry.2 (mem_entries.mp member)) key

theorem get?_foldl_erase (keyed : Keyed α) (name : β → String) (items : List β) (key : String) :
    (items.foldl (fun rest item => rest.erase (name item)) keyed).get? key =
      if key ∈ items.map name then none else keyed.get? key := by
  induction items generalizing keyed with
  | nil => simp
  | cons item rest ih =>
      rw [List.foldl_cons, ih, get?_erase]
      by_cases here : key = name item
      · simp [here]
      · simp [here]

theorem get?_foldl_modify (change : α → α) {names : List String}
    (distinct : names.Nodup) (keyed : Keyed α) (key : String) :
    (names.foldl (fun keyed name => keyed.modify name change) keyed).get? key =
      if key ∈ names then (keyed.get? key).map change else keyed.get? key := by
  induction names generalizing keyed with
  | nil => simp
  | cons name rest ih =>
      obtain ⟨once, distinctRest⟩ := List.nodup_cons.mp distinct
      rw [List.foldl_cons, ih distinctRest, get?_modify]
      by_cases here : key = name
      · subst here
        simp [once]
      · simp [here]

/-- Collections that agree on every look-up are equal. -/
theorem ext_get? {first second : Keyed α}
    (agree : ∀ key, first.get? key = second.get? key) : first = second := by
  cases first with
  | mk entries sorted =>
      cases second with
      | mk others othersSorted =>
          have same : entries = others := Entries.ext sorted othersSorted agree
          subst same
          rfl

/-- What was entered under a new name is gone without a trace when it is erased. -/
theorem erase_insert {keyed : Keyed α} {key : String} (unused : keyed.get? key = none)
    (value : α) : (keyed.insert key value).erase key = keyed := by
  refine ext_get? fun other => ?_
  rw [get?_erase, get?_insert]
  by_cases here : other = key
  · simp [here, unused]
  · simp [here]

/-- Entering what is there already changes nothing. -/
theorem insert_eq_self {keyed : Keyed α} {key : String} {value : α}
    (held : keyed.get? key = some value) : keyed.insert key value = keyed := by
  refine ext_get? fun other => ?_
  rw [get?_insert]
  by_cases here : other = key
  · rw [if_pos here, here, held]
  · rw [if_neg here]

/-- Putting back what was there undoes a change. -/
theorem insert_insert {keyed : Keyed α} {key : String} {value : α}
    (held : keyed.get? key = some value) (other : α) :
    (keyed.insert key other).insert key value = keyed := by
  refine ext_get? fun name => ?_
  rw [get?_insert, get?_insert]
  by_cases here : name = key
  · simp [here, held]
  · simp [here]

end Keyed

end GpuSharing
