import Mathlib

/-!
# Names given once

In a list that gives every name once, each name has the one value that bears it, wherever it
stands.
-/

set_option autoImplicit false

namespace GpuSharing

variable {α : Type} {name : α → String} {values : List α}

theorem filter_named {value : α} (distinct : (values.map name).Nodup) (member : value ∈ values) :
    values.filter (name · = name value) = [value] := by
  have once : (values.filter (name · = name value)).Nodup := (distinct.of_map _).filter _
  refine List.perm_singleton.mp
    ((List.perm_ext_iff_of_nodup once (List.nodup_singleton value)).mpr fun other => ?_)
  rw [List.mem_filter, List.mem_singleton, decide_eq_true_eq]
  constructor
  · rintro ⟨held, same⟩
    exact List.inj_on_of_nodup_map distinct held member same
  · rintro rfl
    exact ⟨member, rfl⟩

/-- The search for a name finds its bearer. -/
theorem find?_named {value : α} (distinct : (values.map name).Nodup) (member : value ∈ values) :
    values.find? (name · = name value) = some value := by
  rw [← List.head?_filter, filter_named distinct member, List.head?_cons]

theorem find?_named_perm {others : List α} (distinct : (values.map name).Nodup)
    (same : others.Perm values) (wanted : String) :
    others.find? (name · = wanted) = values.find? (name · = wanted) := by
  cases found : values.find? (name · = wanted) with
  | none =>
      rw [List.find?_eq_none] at found ⊢
      exact fun value listed => found value (same.mem_iff.mp listed)
  | some value =>
      have bears : name value = wanted := by simpa using List.find?_some found
      have listed := same.mem_iff.mpr (List.mem_of_find?_eq_some found)
      exact bears ▸ find?_named ((same.map name).nodup_iff.mpr distinct) listed

theorem length_filter_named_le (distinct : (values.map name).Nodup) (wanted : String) :
    (values.filter (name · = wanted)).length ≤ 1 := by
  rw [← List.countP_eq_length_filter]
  have once := List.nodup_iff_count_le_one.mp distinct wanted
  rwa [List.count, List.countP_map] at once

end GpuSharing
