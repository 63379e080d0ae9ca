import GpuSharing.Keyed
import GpuSharing.Proofs.Selection.Choice
import Mathlib

/-!
# Fair rotation

Picks in rotation go round the names in a circle, whatever is picked by other strategies in
between and however the candidates change. Every call in rotation that has candidates picks one of
them. As long as a device stays a candidate, the rotation does not get past it without picking it,
so on its way there it comes to no other device twice.
-/

set_option autoImplicit false

namespace GpuSharing

/-- On the way round to a name, one comes before another: first what is above it, then what is
below it. -/
def ComesBefore (goal first second : String) : Prop :=
  (goal < first ∧ second < goal) ∨ (first < second ∧ (goal < first ∨ second < goal))

namespace ComesBefore

variable {goal first second third : String}

theorem ne (before : ComesBefore goal first second) : first ≠ second := by
  unfold ComesBefore at before
  grind

theorem trans (before : ComesBefore goal first second) (after : ComesBefore goal second third) :
    ComesBefore goal first third := by
  unfold ComesBefore at *
  grind

instance : Trans (ComesBefore goal) (ComesBefore goal) (ComesBefore goal) := ⟨trans⟩

end ComesBefore

/-- A turn that follows another one does not get past a name. -/
def Approaches (goal first second : String) : Prop :=
  first = goal ∨ second = goal ∨ ComesBefore goal first second

/-- A rotation does not get past a device that is on offer. -/
theorem approaches_of_chooses {offers : DeviceUsage → Prop} {last : String}
    {goal chosen : DeviceUsage} (offered : offers goal)
    (choice : SelectionStrategy.roundRobin.Chooses (some last) offers chosen) :
    Approaches goal.device last chosen.device := by
  have extremal := choice.extremal goal offered
  have lowest := choice.lowest goal offered
  simp only [SelectionStrategy.Prefers, Option.some.injEq, exists_eq_left', not_and,
    String.not_le] at extremal lowest
  have below (other : chosen.device ≠ goal.device) (least : chosen.device ≤ goal.device) :
      chosen.device < goal.device :=
    Entries.lt_of_not (String.not_lt.mpr least) (Ne.symm other)
  by_cases there : last = goal.device
  · exact .inl there
  · by_cases here : chosen.device = goal.device
    · exact .inr (.inl here)
    · refine .inr (.inr ?_)
      by_cases ahead : last < goal.device
      · -- The goal is still to come in this round, so what is chosen lies between.
        exact .inr ⟨extremal ahead, .inr (below here (lowest fun _ => ahead))⟩
      · -- The goal was passed: what is chosen comes later in this round, or opens the next one.
        have above : goal.device < last := Entries.lt_of_not ahead there
        by_cases later : last < chosen.device
        · exact .inr ⟨later, .inl above⟩
        · exact .inl ⟨above, below here (lowest fun before => absurd before later)⟩

namespace Selector

structure Call where
  strategy : SelectionStrategy
  candidates : List DeviceUsage

namespace Call

def names (call : Call) : List String := call.candidates.map (·.device)

/-- A call in rotation has a device among its candidates, if it has any. -/
def Offers (call : Call) (device : String) : Prop :=
  call.strategy = .roundRobin → call.candidates = [] ∨ device ∈ call.names

/-- A call in rotation has just these devices as candidates, if it has any. -/
def OffersJust (call : Call) (names : List String) : Prop :=
  call.strategy = .roundRobin → call.candidates = [] ∨ ∀ name, name ∈ call.names ↔ name ∈ names

/-- Whether the call is one in rotation and has candidates. -/
def isDue (call : Call) : Bool := call.strategy = .roundRobin && !call.candidates.isEmpty

end Call

def after (selector : Selector) (call : Call) : Selector :=
  (selector.pick call.strategy call.candidates).2

def run (selector : Selector) (calls : List Call) : Selector := calls.foldl after selector

/-- The device that a call picks in rotation. -/
def turn? (selector : Selector) (call : Call) : Option String :=
  if call.strategy = .roundRobin then
    (selector.pick call.strategy call.candidates).1.map (·.device)
  else none

/-- The devices that are picked in rotation, one after another. -/
def turns (selector : Selector) : List Call → List String
  | [] => []
  | call :: rest => (selector.turn? call).toList ++ (selector.after call).turns rest

variable {selector : Selector} {call : Call} {calls : List Call} {device : String}

theorem turn?_eq_some (turned : selector.turn? call = some device) :
    call.strategy = .roundRobin ∧ ∃ chosen, chosen.device = device ∧
      SelectionStrategy.roundRobin.Chooses selector.lastPick (· ∈ call.candidates) chosen := by
  unfold turn? at turned
  split at turned
  · rename_i rotates
    obtain ⟨chosen, picked, named⟩ := Option.map_eq_some_iff.mp turned
    exact ⟨rotates, chosen, named, rotates ▸ chooses_of_pick picked⟩
  · cases turned

/-- A call that is due makes a turn of one of its candidates. -/
theorem exists_turn? (selector : Selector) (due : call.isDue = true) :
    ∃ device ∈ call.names, selector.turn? call = some device := by
  rw [Call.isDue, Bool.and_eq_true, decide_eq_true_eq, Bool.not_eq_true', List.isEmpty_eq_false_iff]
    at due
  obtain ⟨rotates, some⟩ := due
  obtain ⟨usage, listed⟩ := List.exists_mem_of_ne_nil call.candidates some
  obtain ⟨chosen, picked⟩ := exists_pick selector call.strategy listed
  refine ⟨chosen.device, List.mem_map_of_mem (chooses_of_pick picked).offered, ?_⟩
  rw [turn?, if_pos rotates, picked, Option.map_some]

theorem turn?_eq_none (selector : Selector) (idle : call.isDue = false) :
    selector.turn? call = none := by
  cases turned : selector.turn? call with
  | none => rfl
  | some device =>
      obtain ⟨rotates, chosen, -, choice⟩ := turn?_eq_some turned
      have some : call.candidates ≠ [] := List.ne_nil_of_mem choice.offered
      simp [Call.isDue, rotates, some] at idle

/-- The turns are those of the calls that are due, one for each of them. -/
theorem forall₂_turns (selector : Selector) (calls : List Call) :
    List.Forall₂ (fun device call => device ∈ call.names) (selector.turns calls)
      (calls.filter Call.isDue) := by
  induction calls generalizing selector with
  | nil => exact .nil
  | cons call rest ih =>
      unfold turns
      cases due : call.isDue with
      | true =>
          obtain ⟨device, named, turned⟩ := exists_turn? selector due
          rw [turned, List.filter_cons_of_pos due]
          exact .cons named (ih (selector.after call))
      | false =>
          rw [turn?_eq_none selector due, List.filter_cons_of_neg (by simp [due])]
          exact ih (selector.after call)

/-- The last turn is remembered, and nothing else. -/
theorem lastPick_after (selector : Selector) (call : Call) :
    (selector.after call).lastPick = (selector.turn? call).or selector.lastPick := by
  unfold after turn?
  rw [pick_snd]
  split
  · rfl
  · rfl

theorem lastPick_run (selector : Selector) (calls : List Call) :
    (selector.run calls).lastPick = (selector.turns calls).getLast?.or selector.lastPick := by
  induction calls generalizing selector with
  | nil => rfl
  | cons call rest ih =>
      refine (ih (selector.after call)).trans ?_
      rw [lastPick_after, turns]
      cases selector.turn? call with
      | none => simp
      | some device => cases (selector.after call).turns rest <;> simp [List.getLast?_cons]

theorem exists_call_of_mem_turns (member : device ∈ selector.turns calls) :
    ∃ call ∈ calls, call.strategy = .roundRobin ∧ device ∈ call.names := by
  induction calls generalizing selector with
  | nil => cases member
  | cons call rest ih =>
      rcases List.mem_append.mp member with now | later
      · obtain ⟨rotates, chosen, named, choice⟩ := turn?_eq_some (Option.mem_toList.mp now)
        exact ⟨call, List.mem_cons_self, rotates, List.mem_map.mpr ⟨chosen, choice.offered, named⟩⟩
      · obtain ⟨other, listed, found⟩ := ih later
        exact ⟨other, List.mem_cons_of_mem call listed, found⟩

theorem approaches_of_turn? {goal last : String} (offers : call.Offers goal)
    (remembered : selector.lastPick = some last) (turned : selector.turn? call = some device) :
    Approaches goal last device := by
  obtain ⟨rotates, chosen, rfl, choice⟩ := turn?_eq_some turned
  rw [remembered] at choice
  rcases offers rotates with none | named
  · have listed := choice.offered
    rw [none] at listed
    cases listed
  · obtain ⟨found, listed, rfl⟩ := List.mem_map.mp named
    exact approaches_of_chooses listed choice

/-- From the pick that is remembered on, no turn gets past a device that stays a candidate. -/
theorem isChain_turns (offered : ∀ call ∈ calls, call.Offers device) :
    (selector.lastPick.toList ++ selector.turns calls).IsChain (Approaches device) := by
  induction calls generalizing selector with
  | nil => cases selector.lastPick <;> simp [turns]
  | cons call rest ih =>
      have later := @ih (selector.after call) fun other listed =>
        offered other (List.mem_cons_of_mem call listed)
      rw [lastPick_after] at later
      unfold turns
      cases turned : selector.turn? call with
      | none =>
          rw [turned] at later
          exact later
      | some next =>
          rw [turned] at later
          cases remembered : selector.lastPick with
          | none => exact later
          | some last =>
              exact List.isChain_cons_cons.mpr
                ⟨approaches_of_turn? (offered call List.mem_cons_self) remembered turned, later⟩

/-- Where a device that stays a candidate does not come up, none comes up twice. -/
theorem nodup_of_not_mem (offered : ∀ call ∈ calls, call.Offers device) {part : List String}
    (stretch : part <:+: selector.turns calls) (absent : device ∉ part) : part.Nodup := by
  obtain ⟨earlier, later, parts⟩ := stretch
  have chain : part.IsChain (Approaches device) := by
    have whole : (selector.turns calls).IsChain (Approaches device) :=
      (isChain_turns offered).right_of_append
    rw [← parts] at whole
    exact whole.left_of_append.right_of_append
  have passing : part.IsChain (ComesBefore device) := by
    refine chain.imp_of_mem_imp fun first second here there approaches => ?_
    rcases approaches with rfl | rfl | before
    · exact absurd here absent
    · exact absurd there absent
    · exact before
  exact (List.isChain_iff_pairwise.mp passing).imp ComesBefore.ne

theorem perm_of_length_eq {names part : List String} (distinct : names.Nodup)
    (fixed : ∀ call ∈ calls, call.OffersJust names)
    (stretch : part <:+: selector.turns calls) (round : part.length = names.length) :
    part.Perm names := by
  by_cases once : part.Nodup
  · have among : part ⊆ names := fun name turn => by
      obtain ⟨call, listed, rotates, named⟩ := exists_call_of_mem_turns (stretch.subset turn)
      rcases fixed call listed rotates with none | same
      · simp [Call.names, none] at named
      · exact (same name).mp named
    exact (List.subperm_of_subset once among).perm_of_length_le round.ge
  · -- Some device comes up twice, so none of the candidates is left out.
    have complete : names ⊆ part := fun name member => by
      refine Decidable.byContradiction fun absent => once (nodup_of_not_mem ?_ stretch absent)
      intro call listed rotates
      exact (fixed call listed rotates).imp_right fun same => (same name).mpr member
    exact ((List.subperm_of_subset distinct complete).perm_of_length_le round.le).symm

/-- What rotation promises of any calls, with picks by other strategies and empty lists of
candidates among them. -/
structure RotatesFairly (selector : Selector) (calls : List Call) : Prop where
  /-- Each call in rotation picks one of its candidates, if it has any. -/
  serves : List.Forall₂ (fun device call => device ∈ call.names) (selector.turns calls)
    (calls.filter Call.isDue)
  /-- While a device that stays a candidate does not come up, no other one comes up twice. -/
  alternates : ∀ device, (∀ call ∈ calls, call.Offers device) →
    ∀ part, part <:+: selector.turns calls → device ∉ part → ∀ other, part.count other ≤ 1
  /-- Where the candidates stay the same, as many turns as there are candidates reach each once. -/
  roundOfTurns : ∀ names : List String, names.Nodup → (∀ call ∈ calls, call.OffersJust names) →
    ∀ part, part <:+: selector.turns calls → part.length = names.length → part.Perm names
  /-- So do as many calls in rotation that have candidates. -/
  roundOfCalls : ∀ names : List String, names.Nodup → (∀ call ∈ calls, call.OffersJust names) →
    (calls.filter Call.isDue).length = names.length → (selector.turns calls).Perm names
  remembers : (selector.run calls).lastPick = (selector.turns calls).getLast?.or selector.lastPick
  /-- Neither another strategy nor a pick that fails changes the selector. -/
  idle : ∀ strategy candidates,
    strategy ≠ .roundRobin ∨ (selector.pick strategy candidates).1 = none →
      (selector.pick strategy candidates).2 = selector

/-- Rotation is fair from any state of the selector on, so in any stretch of a sequence of calls. -/
theorem turns_fair (selector : Selector) (calls : List Call) : selector.RotatesFairly calls where
  serves := selector.forall₂_turns calls
  alternates := fun device offered part stretch absent =>
    List.nodup_iff_count_le_one.mp (nodup_of_not_mem offered stretch absent)
  roundOfTurns := fun names distinct fixed part stretch round =>
    perm_of_length_eq distinct fixed stretch round
  roundOfCalls := fun names distinct fixed round =>
    perm_of_length_eq distinct fixed (List.infix_refl _)
      ((selector.forall₂_turns calls).length_eq.trans round)
  remembers := selector.lastPick_run calls
  idle := by
    intro strategy candidates idle
    rw [pick_snd]
    rcases idle with other | failed
    · rw [if_neg other]
    · simp [failed]

end Selector

end GpuSharing
