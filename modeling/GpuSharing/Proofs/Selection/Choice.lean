import GpuSharing.Selection

/-!
# What a strategy chooses

A strategy prefers some devices to others by what is used of them, or in rotation by the last
pick. Of the devices to which it prefers no other candidate, it takes the one with the lowest
name. So the order in which candidates are listed does not matter.
-/

set_option autoImplicit false

namespace GpuSharing

namespace SelectionStrategy

variable {strategy : SelectionStrategy} {last : Option String}

/-- Whether a strategy takes one device rather than another, whatever their names. Scores are
compared in the order on all doubles. -/
def Prefers (last : Option String) : SelectionStrategy → DeviceUsage → DeviceUsage → Prop
  | .firstFit, _, _ => False
  | .bestFit, first, second =>
      Decimal.orderKey first.fitScore < Decimal.orderKey second.fitScore
  | .worstFit, first, second =>
      Decimal.orderKey second.fitScore < Decimal.orderKey first.fitScore
  | .loadBalanced, first, second =>
      Decimal.orderKey first.loadScore < Decimal.orderKey second.loadScore
  | .roundRobin, first, second =>
      ∃ pick, last = some pick ∧ pick < first.device ∧ second.device ≤ pick

/-- The choice among what is on offer: the lowest name to which no other one is preferred. -/
structure Chooses (strategy : SelectionStrategy) (last : Option String)
    (offers : DeviceUsage → Prop) (chosen : DeviceUsage) : Prop where
  offered : offers chosen
  extremal : ∀ other, offers other → ¬strategy.Prefers last other chosen
  lowest : ∀ other, offers other → ¬strategy.Prefers last chosen other →
    chosen.device ≤ other.device

theorem Chooses.congr {offers others : DeviceUsage → Prop} {chosen : DeviceUsage}
    (chooses : strategy.Chooses last offers chosen)
    (same : ∀ usage, others usage ↔ offers usage) : strategy.Chooses last others chosen where
  offered := (same chosen).mpr chooses.offered
  extremal other offered := chooses.extremal other ((same other).mp offered)
  lowest other offered := chooses.lowest other ((same other).mp offered)

/-- Whatever else is said of it, the chosen device is the same. -/
theorem Chooses.device_eq {offers : DeviceUsage → Prop} {first second : DeviceUsage}
    (one : strategy.Chooses last offers first) (two : strategy.Chooses last offers second) :
    first.device = second.device :=
  String.le_antisymm
    (one.lowest second two.offered (two.extremal first one.offered))
    (two.lowest first one.offered (one.extremal second two.offered))

/-- A number for each device by which the strategy prefers the least. -/
def rank (last : Option String) : SelectionStrategy → DeviceUsage → Int
  | .firstFit, _ => 0
  | .bestFit, usage => Decimal.orderKey usage.fitScore
  | .worstFit, usage => -Decimal.orderKey usage.fitScore
  | .loadBalanced, usage => Decimal.orderKey usage.loadScore
  | .roundRobin, usage => if last.any (· < usage.device) then 0 else 1

theorem prefers_iff {first second : DeviceUsage} :
    strategy.Prefers last first second ↔ strategy.rank last first < strategy.rank last second := by
  cases strategy with
  | firstFit => simp [Prefers, rank]
  | bestFit => rfl
  | worstFit => exact Int.neg_lt_neg_iff.symm
  | loadBalanced => rfl
  | roundRobin =>
      cases last with
      | none => simp [Prefers, rank]
      | some pick =>
          have turn : SelectionStrategy.roundRobin.Prefers (some pick) first second ↔
              pick < first.device ∧ ¬pick < second.device := by
            simp only [Prefers, Option.some.injEq, exists_eq_left', String.not_lt]
          rw [turn]
          simp only [rank, Option.any_some, decide_eq_true_eq]
          split
          · grind
          · grind

end SelectionStrategy

section Least

variable {α : Type} {key : α → Int} {values : List α}

theorem leastBy_eq_none_iff : leastBy key values = none ↔ values = [] := by
  cases values with
  | nil => simp [leastBy]
  | cons head rest =>
      unfold leastBy
      cases leastBy key rest with
      | none => simp
      | some best =>
          by_cases better : key best < key head
          · simp [better]
          · simp [better]

/-- Nothing has a lesser key, and what has the same one is listed later. -/
theorem leastBy_spec {earlier : α → α → Prop} (refl : ∀ value, earlier value value)
    (sorted : values.Pairwise earlier) {best : α} (found : leastBy key values = some best) :
    best ∈ values ∧ ∀ other ∈ values,
      key best < key other ∨ key best = key other ∧ earlier best other := by
  induction values generalizing best with
  | nil => cases found
  | cons head rest ih =>
      obtain ⟨headFirst, restSorted⟩ := List.pairwise_cons.mp sorted
      unfold leastBy at found
      cases later : leastBy key rest with
      | none =>
          rw [later] at found
          cases found
          rw [leastBy_eq_none_iff.mp later]
          simpa using refl head
      | some runnerUp =>
          -- The head only gives way to something strictly less, so it wins every tie.
          obtain ⟨member, least⟩ := ih restSorted later
          simp only [later] at found
          split at found
          · rename_i better
            cases found
            refine ⟨List.mem_cons_of_mem head member, fun other listed => ?_⟩
            rcases List.mem_cons.mp listed with rfl | inRest
            · exact .inl better
            · exact least other inRest
          · rename_i notBetter
            cases found
            refine ⟨List.mem_cons_self, fun other listed => ?_⟩
            rcases List.mem_cons.mp listed with rfl | inRest
            · exact .inr ⟨rfl, refl other⟩
            · rcases Int.lt_or_eq_of_le
                (show key head ≤ key other by have := least other inRest; omega) with less | tie
              · exact .inl less
              · exact .inr ⟨tie, headFirst other inRest⟩

theorem leastBy_const (value : Int) : leastBy (fun _ : α => value) values = values.head? := by
  cases values with
  | nil => rfl
  | cons head rest =>
      unfold leastBy
      cases leastBy (fun _ : α => value) rest with
      | none => rfl
      | some best => simp

/-- Where one kind counts less than the rest, the first of that kind is the least. -/
theorem leastBy_ite (accepts : α → Bool) :
    leastBy (fun value => if accepts value then 0 else 1) values =
      (values.find? accepts).or values.head? := by
  induction values with
  | nil => rfl
  | cons head rest ih =>
      unfold leastBy
      rw [ih]
      cases here : accepts head with
      | true =>
          have none (best : α) : ¬(if accepts best then 0 else 1 : Int) < 0 := by
            split
            · omega
            · omega
          cases (rest.find? accepts).or rest.head? with
          | none => simp [here]
          | some best => simp [here, none best]
      | false =>
          cases found : rest.find? accepts with
          | some best => simp [here, found, List.find?_some found]
          | none =>
              cases rest with
              | nil => simp [here]
              | cons next rest =>
                  have other : accepts next = false := by
                    simpa using List.find?_eq_none.mp found next List.mem_cons_self
                  simp [here, found, other]

end Least

namespace Selector

variable {selector : Selector} {strategy : SelectionStrategy} {candidates : List DeviceUsage}

/-- In the order of their names. -/
def sortByName (candidates : List DeviceUsage) : List DeviceUsage :=
  candidates.mergeSort fun a b => a.device ≤ b.device

theorem sorted_sortByName (candidates : List DeviceUsage) :
    (sortByName candidates).Pairwise fun a b => a.device ≤ b.device := by
  have sorted : (sortByName candidates).Pairwise fun a b => decide (a.device ≤ b.device) :=
    List.pairwise_mergeSort (fun a b c => by simpa using String.le_trans)
      (fun a b => by simpa using String.le_total a.device b.device) candidates
  exact sorted.imp of_decide_eq_true

theorem nextInRotation_eq (selector : Selector) (candidates : List DeviceUsage) :
    selector.nextInRotation candidates =
      leastBy (SelectionStrategy.rank selector.lastPick .roundRobin) candidates := by
  refine Eq.trans ?_ (leastBy_ite fun usage : DeviceUsage => selector.lastPick.any (· < usage.device)).symm
  unfold nextInRotation
  cases selector.lastPick with
  | none =>
      have never : candidates.find? (fun _ => false) = none := List.find?_eq_none.mpr (by simp)
      simp [never]
  | some last => simp

theorem pick_roundRobin (selector : Selector) (candidates : List DeviceUsage) :
    selector.pick .roundRobin candidates =
      match selector.nextInRotation (sortByName candidates) with
      | some chosen => (some chosen, ⟨some chosen.device⟩)
      | none => (none, selector) := rfl

/-- Every strategy picks the least by its rank, from the lowest name on. -/
theorem pick_fst (selector : Selector) (strategy : SelectionStrategy)
    (candidates : List DeviceUsage) :
    (selector.pick strategy candidates).1 =
      leastBy (strategy.rank selector.lastPick) (sortByName candidates) := by
  cases strategy with
  | firstFit => exact (leastBy_const 0).symm
  | bestFit => rfl
  | worstFit => rfl
  | loadBalanced => rfl
  | roundRobin =>
      rw [← nextInRotation_eq, pick_roundRobin]
      cases selector.nextInRotation (sortByName candidates) with
      | none => rfl
      | some chosen => rfl

/-- Only a pick in rotation is remembered. -/
theorem pick_snd (selector : Selector) (strategy : SelectionStrategy)
    (candidates : List DeviceUsage) :
    (selector.pick strategy candidates).2 =
      if strategy = .roundRobin then
        ⟨((selector.pick strategy candidates).1.map (·.device)).or selector.lastPick⟩
      else selector := by
  cases strategy with
  | firstFit => rfl
  | bestFit => rfl
  | worstFit => rfl
  | loadBalanced => rfl
  | roundRobin =>
      rw [if_pos rfl, pick_roundRobin]
      cases selector.nextInRotation (sortByName candidates) with
      | none => rfl
      | some chosen => rfl

theorem pick_eq_none_iff (selector : Selector) (strategy : SelectionStrategy) :
    (selector.pick strategy candidates).1 = none ↔ candidates = [] := by
  rw [pick_fst, leastBy_eq_none_iff, sortByName, ← List.length_eq_zero_iff, List.length_mergeSort,
    List.length_eq_zero_iff]

theorem chooses_of_pick {chosen : DeviceUsage}
    (picked : (selector.pick strategy candidates).1 = some chosen) :
    strategy.Chooses selector.lastPick (· ∈ candidates) chosen := by
  rw [pick_fst] at picked
  have listed {usage : DeviceUsage} : usage ∈ sortByName candidates ↔ usage ∈ candidates :=
    List.mem_mergeSort
  obtain ⟨member, least⟩ :=
    leastBy_spec (fun usage => String.le_refl usage.device) (sorted_sortByName candidates) picked
  refine ⟨listed.mp member, fun other offered preferred => ?_, fun other offered equal => ?_⟩
  · rw [SelectionStrategy.prefers_iff] at preferred
    have bound := least other (listed.mpr offered)
    omega
  · rw [SelectionStrategy.prefers_iff] at equal
    rcases least other (listed.mpr offered) with less | ⟨_, lower⟩
    · exact absurd less equal
    · exact lower

theorem exists_pick (selector : Selector) (strategy : SelectionStrategy) {usage : DeviceUsage}
    (offered : usage ∈ candidates) :
    ∃ chosen, (selector.pick strategy candidates).1 = some chosen := by
  refine Option.ne_none_iff_exists'.mp fun none => ?_
  rw [(pick_eq_none_iff selector strategy).mp none] at offered
  cases offered

/-- In whatever order the candidates are listed, the same device is picked and remembered. -/
theorem pick_perm (selector : Selector) (strategy : SelectionStrategy)
    {listed : List DeviceUsage} (same : listed.Perm candidates) :
    (selector.pick strategy listed).1.map (·.device) =
        (selector.pick strategy candidates).1.map (·.device) ∧
      (selector.pick strategy listed).2 = (selector.pick strategy candidates).2 := by
  have device : (selector.pick strategy listed).1.map (·.device) =
      (selector.pick strategy candidates).1.map (·.device) := by
    cases picked : (selector.pick strategy listed).1 with
    | none =>
        rw [(pick_eq_none_iff selector strategy).mp picked] at same
        rw [(pick_eq_none_iff selector strategy).mpr same.nil_eq.symm]
    | some chosen =>
        have choice := chooses_of_pick picked
        obtain ⟨other, otherPicked⟩ :=
          exists_pick selector strategy (same.mem_iff.mp choice.offered)
        have others := (chooses_of_pick otherPicked).congr fun usage => same.mem_iff
        rw [otherPicked, Option.map_some, Option.map_some, choice.device_eq others]
  refine ⟨device, ?_⟩
  rw [pick_snd, pick_snd, device]

section Choose

variable {refusal : AllocationError}

theorem choose_eq (selector : Selector) (strategy : SelectionStrategy)
    (candidates : List DeviceUsage) (refusal : AllocationError) :
    selector.choose strategy candidates refusal =
      (((selector.pick strategy candidates).1.map (·.device)).elim (refuse refusal) .ok,
        (selector.pick strategy candidates).2) := by
  unfold choose
  cases selector.pick strategy candidates with
  | mk picked next =>
      cases picked with
      | none => rfl
      | some chosen => rfl

theorem choose_eq_ok {device : String} :
    (selector.choose strategy candidates refusal).1 = .ok device ↔
      ∃ chosen, (selector.pick strategy candidates).1 = some chosen ∧ chosen.device = device := by
  rw [choose_eq]
  cases (selector.pick strategy candidates).1 with
  | none => simp [refuse]
  | some chosen => simp

theorem choose_eq_error {failure : Failure} :
    (selector.choose strategy candidates refusal).1 = .error failure ↔
      candidates = [] ∧ failure = { error := refusal } := by
  rw [← pick_eq_none_iff selector strategy, choose_eq]
  cases (selector.pick strategy candidates).1 with
  | none => simp [refuse, eq_comm]
  | some chosen => simp

theorem exists_choose_eq_ok : (∃ device, (selector.choose strategy candidates refusal).1 =
    .ok device) ↔ candidates ≠ [] := by
  simp only [choose_eq_ok, Ne, ← pick_eq_none_iff selector strategy, Option.ne_none_iff_exists']
  constructor
  · rintro ⟨_, chosen, picked, _⟩
    exact ⟨chosen, picked⟩
  · rintro ⟨chosen, picked⟩
    exact ⟨chosen.device, chosen, picked, rfl⟩

theorem choose_perm {listed : List DeviceUsage} (same : listed.Perm candidates) :
    selector.choose strategy listed refusal = selector.choose strategy candidates refusal := by
  obtain ⟨device, next⟩ := pick_perm selector strategy same
  rw [choose_eq, choose_eq, device, next]

end Choose

end Selector

end GpuSharing
