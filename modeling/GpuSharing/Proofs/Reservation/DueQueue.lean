import GpuSharing.Reservation.Sweep
import Mathlib

/-!
# What a queue gives out

A queue gives out everything that was pushed, each entry once and the most urgent first. The
names are one way to decide between the equally urgent: what is pushed then comes out as if it
were sorted.
-/

set_option autoImplicit false

namespace GpuSharing

namespace DueQueue

section Draining

variable (queue : DueQueue)

theorem drain_of_none {state : queue.State} (popped : queue.pop state = none) :
    queue.drain state = [] := by
  rw [drain]
  split
  · rfl
  · rename_i found
    rw [popped] at found
    cases found

theorem drain_of_some {state rest : queue.State} {id : String}
    (popped : queue.pop state = some (id, rest)) :
    queue.drain state = id :: queue.drain rest := by
  rw [drain]
  split
  · rename_i found
    rw [popped] at found
    cases found
  · rename_i found
    rw [popped] at found
    cases found
    rfl

/-- A queue gives out all that it holds, and nothing before what is more urgent. -/
theorem drain_sorted (state : queue.State) :
    ∃ order : List (String × Urgency), order.Perm (queue.entries state) ∧
      queue.drain state = order.map (·.1) ∧ order.Pairwise fun a b => b.2 ≤ a.2 := by
  induction state using drain.induct queue with
  | case1 state popped =>
      refine ⟨[], ?_, queue.drain_of_none popped, .nil⟩
      rw [queue.entries_of_none state popped]
  | case2 state id rest popped ih =>
      obtain ⟨order, same, given, sorted⟩ := ih
      obtain ⟨urgency, before, greatest⟩ := queue.entries_of_some state id rest popped
      refine ⟨(id, urgency) :: order, (same.cons _).trans before.symm, ?_, ?_⟩
      · rw [queue.drain_of_some popped, given, List.map_cons]
      · refine List.pairwise_cons.mpr ⟨fun other later => greatest other ?_, sorted⟩
        exact before.mem_iff.mpr (List.mem_cons_of_mem _ (same.mem_iff.mp later))

/-- What is pushed under names of its own waits in the queue beside all else. -/
theorem entries_foldl_push {records : List Reservation} (state : queue.State)
    (distinct : (records.map (·.id)).Nodup)
    (new : ∀ record ∈ records, record.id ∉ (queue.entries state).map (·.1)) :
    (queue.entries (records.foldl
      (fun state record => queue.push state record.id record.urgency) state)).Perm
      (records.map (fun record => (record.id, record.urgency)) ++ queue.entries state) := by
  induction records generalizing state with
  | nil => exact .refl _
  | cons record rest ih =>
      obtain ⟨once, distinctRest⟩ := List.nodup_cons.mp distinct
      have pushed := queue.entries_push state record.id record.urgency
        (new record List.mem_cons_self)
      refine (ih _ distinctRest fun other later => ?_).trans ?_
      · rw [(pushed.map _).mem_iff, List.map_cons, List.mem_cons, not_or]
        refine ⟨fun same => once ?_, new other (List.mem_cons_of_mem _ later)⟩
        exact List.mem_map.mpr ⟨other, later, same⟩
      · exact (pushed.append_left _).trans List.perm_middle

end Draining

section Named

/-- The more urgent entry, or of two equally urgent ones that of the lower name. -/
def urgentFirst (a b : String × Urgency) : Bool :=
  a.2.start < b.2.start || (a.2.start = b.2.start &&
    (b.2.priority < a.2.priority || (a.2.priority = b.2.priority && a.1 ≤ b.1)))

theorem urgentFirst_iff {a b : String × Urgency} : urgentFirst a b ↔
    a.2.start < b.2.start ∨ a.2.start = b.2.start ∧
      (b.2.priority < a.2.priority ∨ a.2.priority = b.2.priority ∧ a.1 ≤ b.1) := by
  simp [urgentFirst]

theorem urgentFirst_trans (a b c : String × Urgency) (first : urgentFirst a b)
    (second : urgentFirst b c) : urgentFirst a c := by
  rw [urgentFirst_iff] at *
  rcases first with before | ⟨together, first⟩
  · refine .inl ?_
    rcases second with also | ⟨same, _⟩
    · rw [Timestamp.lt_iff] at *
      omega
    · exact same ▸ before
  · rcases second with after | ⟨same, second⟩
    · exact .inl (together ▸ after)
    · refine .inr ⟨together.trans same, ?_⟩
      rcases first with above | ⟨level, named⟩
      · refine .inl ?_
        omega
      · rcases second with below | ⟨equal, also⟩
        · exact .inl (level ▸ below)
        · exact .inr ⟨level.trans equal, String.le_trans named also⟩

theorem urgentFirst_total (a b : String × Urgency) : (urgentFirst a b || urgentFirst b a) = true := by
  rw [Bool.or_eq_true, urgentFirst_iff, urgentFirst_iff]
  rcases Timestamp.lt_trichotomy a.2.start b.2.start with before | together | after
  · exact .inl (.inl before)
  · rcases Int.lt_trichotomy a.2.priority b.2.priority with below | level | above
    · exact .inr (.inr ⟨together.symm, .inl below⟩)
    · exact (String.le_total a.1 b.1).imp
        (fun named => .inr ⟨together, .inr ⟨level, named⟩⟩)
        (fun named => .inr ⟨together.symm, .inr ⟨level.symm, named⟩⟩)
    · exact .inl (.inr ⟨together, .inl above⟩)
  · exact .inr (.inl after)

theorem le_of_urgentFirst {a b : String × Urgency} (first : urgentFirst a b) : b.2 ≤ a.2 := by
  rcases urgentFirst_iff.mp first with before | ⟨together, above | ⟨level, _⟩⟩
  · exact .inl before
  · exact .inr ⟨together.symm, above.le⟩
  · exact .inr ⟨together.symm, level.ge⟩

theorem pairwise_urgentFirst (entries : List (String × Urgency)) :
    (entries.mergeSort urgentFirst).Pairwise fun a b => urgentFirst a b :=
  List.pairwise_mergeSort urgentFirst_trans urgentFirst_total entries

def popFirst (entries : List (String × Urgency)) : Option (String × List (String × Urgency)) :=
  match entries.mergeSort urgentFirst with
  | [] => none
  | first :: rest => some (first.1, rest)

theorem popFirst_eq_none {entries : List (String × Urgency)} :
    popFirst entries = none ↔ entries = [] := by
  have empty : entries.mergeSort urgentFirst = [] ↔ entries = [] := by
    rw [← List.length_eq_zero_iff, List.length_mergeSort, List.length_eq_zero_iff]
  rw [← empty, popFirst]
  cases entries.mergeSort urgentFirst with
  | nil => simp
  | cons first rest => simp

theorem popFirst_eq_some {entries rest : List (String × Urgency)} {id : String} :
    popFirst entries = some (id, rest) ↔
      ∃ urgency, entries.mergeSort urgentFirst = (id, urgency) :: rest := by
  unfold popFirst
  cases entries.mergeSort urgentFirst with
  | nil => simp
  | cons first others =>
      constructor
      · intro popped
        obtain ⟨rfl, rfl⟩ := Prod.mk.inj (Option.some.inj popped)
        exact ⟨first.2, rfl⟩
      · rintro ⟨urgency, sorted⟩
        obtain ⟨rfl, rfl⟩ := List.cons.inj sorted
        rfl

/-- The queue in which names decide between the equally urgent. -/
def named : DueQueue where
  State := List (String × Urgency)
  empty := []
  push state id urgency := state ++ [(id, urgency)]
  pop := popFirst
  entries := id
  entries_empty := rfl
  entries_push state id urgency _ := List.perm_append_singleton (id, urgency) state
  entries_of_none _ popped := popFirst_eq_none.mp popped
  entries_of_some state id rest popped := by
    obtain ⟨urgency, sorted⟩ := popFirst_eq_some.mp popped
    have same := sorted ▸ (List.mergeSort_perm state urgentFirst).symm
    have order := sorted ▸ pairwise_urgentFirst state
    refine ⟨urgency, same, fun other member => ?_⟩
    rcases List.mem_cons.mp (same.mem_iff.mp member) with rfl | later
    · exact .inr ⟨rfl, Int.le_refl _⟩
    · exact le_of_urgentFirst ((List.pairwise_cons.mp order).1 other later)

theorem drain_named_of_sorted {entries : List (String × Urgency)}
    (sorted : entries.Pairwise fun a b => urgentFirst a b) :
    named.drain entries = entries.map (·.1) := by
  induction entries with
  | nil => exact named.drain_of_none (popFirst_eq_none.mpr rfl)
  | cons first rest ih =>
      have popped : popFirst (first :: rest) = some (first.1, rest) :=
        popFirst_eq_some.mpr ⟨first.2, List.mergeSort_of_pairwise sorted⟩
      exact (named.drain_of_some popped).trans
        (congrArg (first.1 :: ·) (ih (List.pairwise_cons.mp sorted).2))

theorem drain_named (entries : List (String × Urgency)) :
    named.drain entries = (entries.mergeSort urgentFirst).map (·.1) := by
  cases popped : popFirst entries with
  | none =>
      rw [popFirst_eq_none.mp popped, List.mergeSort_nil]
      exact named.drain_of_none (popFirst_eq_none.mpr rfl)
  | some next =>
      obtain ⟨urgency, sorted⟩ := popFirst_eq_some.mp popped
      have order := sorted ▸ pairwise_urgentFirst entries
      rw [sorted]
      exact (named.drain_of_some popped).trans
        (congrArg (next.1 :: ·) (drain_named_of_sorted (List.pairwise_cons.mp order).2))

theorem foldl_push_named (records : List Reservation) (state : List (String × Urgency)) :
    records.foldl (fun state record => named.push state record.id record.urgency) state =
      state ++ records.map fun record => (record.id, record.urgency) := by
  induction records generalizing state with
  | nil => exact (List.append_nil state).symm
  | cons record rest ih =>
      refine (ih _).trans ?_
      exact List.append_assoc ..

end Named

end DueQueue

end GpuSharing
