import GpuSharing.Ledger
import GpuSharing.Proofs.Holdings

/-!
# Ledgers whose index agrees with their books

A ledger is coherent when its index names exactly the live allocations, each with
the one device that holds it. Granting, releasing and expiring keep it so, and what
they do to the allocations of a device does not depend on the kind of its books.
-/

set_option autoImplicit false

namespace GpuSharing

/-- Books on which removal takes one allocation off the list, and expiry all that
have expired. -/
class LawfulBooked (δ : Type) [Booked δ] : Prop where
  remove?_eq : ∀ (books : δ) (id : String),
    (Booked.remove? books id).map (fun result => (result.1, Booked.allocations result.2)) =
      takeAllocation? id (Booked.allocations books)
  expire_eq : ∀ (books : δ) (now : Timestamp),
    ((Booked.allocations books).map (·.id)).Nodup →
    (Booked.expire books now).1 = (Booked.allocations books).filter (·.isExpiredAt now) ∧
      Booked.allocations (Booked.expire books now).2 =
        (Booked.allocations books).filter fun live => !live.isExpiredAt now

theorem LawfulBooked.takes {δ : Type} [Booked δ] [LawfulBooked δ] {books left : δ} {id : String}
    {taken : GpuAllocation} (removed : Booked.remove? books id = some (taken, left)) :
    takeAllocation? id (Booked.allocations books) = some (taken, Booked.allocations left) := by
  rw [← LawfulBooked.remove?_eq, removed]
  rfl

/-- The allocation is what was asked for, on the device that was asked for. -/
structure GpuAllocation.Answers (allocation : GpuAllocation) (device : String)
    (request : AllocationRequest) : Prop where
  id_eq : allocation.id = request.id
  device_eq : allocation.device = device
  isolation_eq : allocation.isolation = request.isolation
  memory_eq : allocation.memoryMib = request.memoryMib
  expiry_eq : allocation.expiresAt = request.expiresAt

namespace Ledger

variable {δ : Type}

/-- A property holds of the books of every device. -/
def Each (ledger : Ledger δ) (holds : δ → Prop) : Prop :=
  ∀ device books, ledger.devices.get? device = some books → holds books

theorem Each.insert {ledger : Ledger δ} {holds : δ → Prop} (each : ledger.Each holds)
    {device : String} {changed : δ} {owners : Keyed String} (new : holds changed) :
    Ledger.Each { devices := ledger.devices.insert device changed, owners } holds := by
  intro other books found
  simp only [Keyed.get?_insert] at found
  by_cases same : other = device
  · rw [if_pos same] at found
    exact Option.some.inj found ▸ new
  · rw [if_neg same] at found
    exact each other books found

section Books

variable [Booked δ]

/-- The allocations that live on a device; none on a device that is not known. -/
def liveOn (ledger : Ledger δ) (device : String) : List GpuAllocation :=
  match ledger.devices.get? device with
  | some books => Booked.allocations books
  | none => []

/-- Every live allocation has a name of its own and is filed under its device, and
the index knows its name. -/
structure Coherent (ledger : Ledger δ) : Prop where
  distinct : ∀ device, ((ledger.liveOn device).map (·.id)).Nodup
  located : ∀ device, ∀ allocation ∈ ledger.liveOn device, allocation.device = device
  indexed : ∀ id device,
    ledger.owners.get? id = some device ↔ id ∈ (ledger.liveOn device).map (·.id)

theorem liveOn_eq {ledger : Ledger δ} {device : String} {books : δ}
    (found : ledger.devices.get? device = some books) :
    ledger.liveOn device = Booked.allocations books := by
  rw [liveOn, found]

/-- What holds of the live allocations of any books, and of none, holds everywhere. -/
theorem Each.liveOn {ledger : Ledger δ} {holds : δ → Prop} (each : ledger.Each holds)
    (property : List GpuAllocation → Prop) (none : property [])
    (some : ∀ books, holds books → property (Booked.allocations books)) (device : String) :
    property (ledger.liveOn device) := by
  unfold Ledger.liveOn
  cases known : ledger.devices.get? device with
  | none => exact none
  | some books => exact some books (each device books known)

theorem count_eq_length (ledger : Ledger δ) (device : String) :
    ledger.count device = (ledger.liveOn device).length := by
  unfold count liveOn
  cases ledger.devices.get? device with
  | none => rfl
  | some books => rfl

/-- A device that is not known is listed like one on which nothing lives. -/
theorem list_eq_liveOn (ledger : Ledger δ) (device : String) :
    (match ledger.list device with
      | .ok allocations => allocations
      | .error _ => []) = ledger.liveOn device := by
  unfold list Ledger.device liveOn
  cases ledger.devices.get? device with
  | none => rfl
  | some books => rfl

theorem liveOn_insert (ledger : Ledger δ) (device : String) (books : δ) (other : String) :
    { ledger with devices := ledger.devices.insert device books }.liveOn other =
      if other = device then Booked.allocations books else ledger.liveOn other := by
  unfold liveOn
  simp only [Keyed.get?_insert]
  by_cases same : other = device
  · simp [same]
  · simp [same]

/-- Books that hold the same allocations can replace those of a device. -/
theorem liveOn_insert_of_eq {ledger : Ledger δ} {device : String} {books : δ}
    (same : Booked.allocations books = ledger.liveOn device) (other : String) :
    { ledger with devices := ledger.devices.insert device books }.liveOn other =
      ledger.liveOn other := by
  rw [liveOn_insert]
  split
  · rename_i here
    rw [same, here]
  · rfl

theorem coherent_empty : ({} : Ledger δ).Coherent where
  distinct _ := List.nodup_nil
  located _ _ member := by cases member
  indexed _ _ := by simp [liveOn]

/-- Only names and places of the live allocations matter to the index. -/
theorem Coherent.of_same_places {before after : Ledger δ} (coherent : before.Coherent)
    (owners : after.owners = before.owners)
    (places : ∀ device, (after.liveOn device).map (fun live => (live.id, live.device)) =
      (before.liveOn device).map fun live => (live.id, live.device)) : after.Coherent := by
  have names (device : String) :
      (after.liveOn device).map (·.id) = (before.liveOn device).map (·.id) := by
    simpa [Function.comp_def] using congrArg (List.map Prod.fst) (places device)
  refine ⟨fun device => names device ▸ coherent.distinct device, ?_, ?_⟩
  · intro device allocation member
    have placed : (allocation.id, allocation.device) ∈
        (before.liveOn device).map fun live => (live.id, live.device) :=
      places device ▸ List.mem_map_of_mem member
    obtain ⟨earlier, earlierMember, same⟩ := List.mem_map.mp placed
    rw [← (Prod.mk.inj same).2]
    exact coherent.located device earlier earlierMember
  · intro id device
    rw [owners, names]
    exact coherent.indexed id device

theorem Coherent.device_unique {ledger : Ledger δ} (coherent : ledger.Coherent)
    {id first second : String} (onFirst : id ∈ (ledger.liveOn first).map (·.id))
    (onSecond : id ∈ (ledger.liveOn second).map (·.id)) : first = second :=
  Option.some.inj
    (((coherent.indexed id first).mpr onFirst).symm.trans ((coherent.indexed id second).mpr onSecond))

theorem Coherent.fresh {ledger : Ledger δ} (coherent : ledger.Coherent) {id : String}
    (unused : ledger.owners.get? id = none) (device : String) :
    id ∉ (ledger.liveOn device).map (·.id) := fun member => by
  rw [(coherent.indexed id device).mpr member] at unused
  cases unused

section Grants

/-- An allocation was put on the books of its device under a name that was free. -/
structure Entered (before after : Ledger δ) (allocation : GpuAllocation) : Prop where
  unused : before.owners.get? allocation.id = none
  owners_eq : ∀ id, after.owners.get? id =
    if id = allocation.id then some allocation.device else before.owners.get? id
  liveOn_eq : ∀ device, after.liveOn device =
    if device = allocation.device then before.liveOn device ++ [allocation]
    else before.liveOn device

theorem entered_enter {ledger : Ledger δ} {device : String} {changed : δ}
    {allocation : GpuAllocation} (unused : ledger.owners.get? allocation.id = none)
    (place : allocation.device = device)
    (grown : Booked.allocations changed = ledger.liveOn device ++ [allocation]) :
    ledger.Entered (ledger.enter device changed allocation) allocation := by
  refine ⟨unused, fun id => ?_, fun other => ?_⟩
  · rw [place]
    exact Keyed.get?_insert ledger.owners allocation.id device id
  · refine (liveOn_insert ledger device changed other).trans ?_
    rw [place]
    split
    · rename_i same
      rw [grown, same]
    · rfl

theorem Coherent.enter {before after : Ledger δ} (coherent : before.Coherent)
    {allocation : GpuAllocation} (entered : before.Entered after allocation) :
    after.Coherent := by
  have fresh := coherent.fresh entered.unused
  refine ⟨?_, ?_, ?_⟩
  · intro device
    rw [entered.liveOn_eq]
    split
    · exact nodup_append_singleton (coherent.distinct device) (fresh device)
    · exact coherent.distinct device
  · intro device live member
    rw [entered.liveOn_eq] at member
    split at member
    · rename_i same
      rcases List.mem_append.mp member with old | new
      · exact coherent.located device live old
      · rw [List.mem_singleton.mp new, same]
    · exact coherent.located device live member
  · intro id device
    rw [entered.liveOn_eq, entered.owners_eq]
    by_cases named : id = allocation.id
    · by_cases here : device = allocation.device
      · simp [named, here]
      · simpa [named, here, Ne.symm here] using fresh device
    · by_cases here : device = allocation.device
      · simp [named, here, coherent.indexed id allocation.device]
      · simp [named, here, coherent.indexed id device]

end Grants

theorem Each.expire {ledger : Ledger δ} {holds : δ → Prop} (each : ledger.Each holds)
    (now : Timestamp) (drops : ∀ books, holds books → holds (Booked.expire books now).2) :
    (ledger.expire now).2.Each holds := by
  intro device books found
  simp only [Ledger.expire, Keyed.get?_map, Option.map_eq_some_iff] at found
  obtain ⟨earlier, known, rfl⟩ := found
  exact drops earlier (each device earlier known)

theorem get?_owners_expire (ledger : Ledger δ) (now : Timestamp) (id : String) :
    (ledger.expire now).2.owners.get? id =
      if id ∈ ((ledger.expire now).1.map (·.id)) then none else ledger.owners.get? id := by
  rw [Ledger.expire, List.map_map]
  exact Keyed.get?_foldl_erase ledger.owners (fun live : GpuAllocation => live.id) _ id

/-- What lives somewhere is found by its name. -/
theorem get_eq_ok {ledger : Ledger δ} (coherent : ledger.Coherent) {device : String}
    {live : GpuAllocation} (member : live ∈ ledger.liveOn device) :
    ledger.get live.id = .ok live := by
  have owner := (coherent.indexed live.id device).mpr (List.mem_map_of_mem member)
  have distinct := coherent.distinct device
  unfold liveOn at member distinct
  unfold get
  cases known : ledger.devices.get? device with
  | none => simp [known] at member
  | some books =>
      rw [known] at member distinct
      simp [owner, known, find?_named distinct member]

section Removals

variable [LawfulBooked δ]

/-- A release either finds no allocation of that name, or takes it off its device. -/
theorem release_cases {ledger : Ledger δ} (coherent : ledger.Coherent) (id : String) :
    (ledger.owners.get? id = none ∧
      ledger.release id = (refuse (.notFound .allocation id), ledger)) ∨
    ∃ device books taken left, ledger.owners.get? id = some device ∧
      ledger.devices.get? device = some books ∧ Booked.remove? books id = some (taken, left) ∧
      ledger.release id = (.ok { taken with status := .completed },
        { devices := ledger.devices.insert device left, owners := ledger.owners.erase id }) := by
  cases owner : ledger.owners.get? id with
  | none => exact .inl ⟨rfl, by simp [release, owner]⟩
  | some device =>
      have live := (coherent.indexed id device).mp owner
      cases known : ledger.devices.get? device with
      | none => simp [liveOn, known] at live
      | some books =>
          rw [liveOn_eq known] at live
          cases removed : Booked.remove? books id with
          | none =>
              have absent := LawfulBooked.remove?_eq books id
              rw [removed] at absent
              exact absurd live (takeAllocation?_eq_none.mp absent.symm)
          | some result =>
              obtain ⟨taken, left⟩ := result
              exact .inr ⟨device, books, taken, left, rfl, known, removed,
                by simp [release, owner, known, removed]⟩

/-- What lives somewhere can be released by its name. -/
theorem release_eq_ok {ledger : Ledger δ} (coherent : ledger.Coherent) {device : String}
    {live : GpuAllocation} (member : live ∈ ledger.liveOn device) :
    (ledger.release live.id).1 = .ok { live with status := .completed } := by
  have indexed := (coherent.indexed live.id device).mpr (List.mem_map_of_mem member)
  rcases release_cases coherent live.id with
    ⟨unused, _⟩ | ⟨owner, books, taken, left, found, known, removed, released⟩
  · rw [indexed] at unused
    cases unused
  · rw [indexed, Option.some.injEq] at found
    subst found
    have takes := LawfulBooked.takes removed
    rw [← liveOn_eq known] at takes
    have named := (takeAllocation?_eq_some takes).1
    rw [released, eq_of_id_eq (coherent.distinct device) (mem_of_takeAllocation? takes) member named]

theorem Each.release {ledger : Ledger δ} {holds : δ → Prop} (each : ledger.Each holds)
    (coherent : ledger.Coherent) (id : String)
    (removes : ∀ books taken left, holds books →
      Booked.remove? books id = some (taken, left) → holds left) :
    (ledger.release id).2.Each holds := by
  rcases release_cases coherent id with
    ⟨_, released⟩ | ⟨device, books, taken, left, _, known, removed, released⟩
  · rw [released]
    exact each
  · rw [released]
    exact each.insert (removes books taken left (each device books known) removed)

/-- Releasing a name takes it off every list, and nothing else. -/
theorem liveOn_release {ledger : Ledger δ} (coherent : ledger.Coherent) (id device : String) :
    (ledger.release id).2.liveOn device = (ledger.liveOn device).filter (·.id ≠ id) := by
  have elsewhere (other : String) (absent : id ∉ (ledger.liveOn other).map (·.id)) :
      (ledger.liveOn other).filter (·.id ≠ id) = ledger.liveOn other :=
    List.filter_eq_self.mpr fun live member => by
      simpa using fun same : live.id = id => absent (same ▸ List.mem_map_of_mem member)
  rcases release_cases coherent id with
    ⟨unused, released⟩ | ⟨owner, books, taken, left, found, known, removed, released⟩
  · rw [released, elsewhere device (coherent.fresh unused device)]
  · rw [released]
    refine (liveOn_insert _ owner left device).trans ?_
    split
    · rename_i same
      rw [same, liveOn_eq known]
      exact takeAllocation?_left (liveOn_eq known ▸ coherent.distinct owner)
        (LawfulBooked.takes removed)
    · rename_i other
      refine (elsewhere device fun member => other ?_).symm
      exact coherent.device_unique member ((coherent.indexed id owner).mp found)

theorem owners_release {ledger : Ledger δ} (coherent : ledger.Coherent) (id other : String) :
    (ledger.release id).2.owners.get? other =
      if other = id then none else ledger.owners.get? other := by
  rcases release_cases coherent id with
    ⟨unused, released⟩ | ⟨owner, books, taken, left, found, known, removed, released⟩
  · rw [released]
    split
    · rename_i same
      exact same ▸ unused
    · rfl
  · rw [released]
    exact Keyed.get?_erase ledger.owners id other

theorem Coherent.release {ledger : Ledger δ} (coherent : ledger.Coherent) (id : String) :
    (ledger.release id).2.Coherent := by
  refine ⟨?_, ?_, ?_⟩
  · intro device
    rw [liveOn_release coherent]
    exact nodup_filter _ (coherent.distinct device)
  · intro device allocation member
    rw [liveOn_release coherent] at member
    exact coherent.located device allocation (List.mem_filter.mp member).1
  · intro other device
    rw [owners_release coherent, liveOn_release coherent]
    by_cases same : other = id
    · simp [same]
    · have kept (live : GpuAllocation) : live.id = other → live.id ≠ id :=
        fun named dropped => same (named.symm.trans dropped)
      simp only [same, ↓reduceIte, coherent.indexed other device, List.mem_map, List.mem_filter,
        decide_eq_true_eq]
      exact ⟨fun ⟨live, member, named⟩ => ⟨live, ⟨member, kept live named⟩, named⟩,
        fun ⟨live, ⟨member, _⟩, named⟩ => ⟨live, member, named⟩⟩

end Removals

section Expiry

variable [LawfulBooked δ]

/-- Expiry takes what has expired off every list, and nothing else. -/
theorem liveOn_expire {ledger : Ledger δ} (coherent : ledger.Coherent) (now : Timestamp)
    (device : String) :
    (ledger.expire now).2.liveOn device =
      (ledger.liveOn device).filter fun live => !live.isExpiredAt now := by
  have distinct := coherent.distinct device
  unfold liveOn at distinct ⊢
  simp only [Ledger.expire, Keyed.get?_map]
  cases known : ledger.devices.get? device with
  | none => rfl
  | some books =>
      rw [known] at distinct
      exact (LawfulBooked.expire_eq books now distinct).2

/-- What expires on a device is taken off its list, in the order of the list. -/
theorem expire_on {ledger : Ledger δ} (coherent : ledger.Coherent) (now : Timestamp)
    (device : String) :
    (ledger.expire now).1.filter (·.device = device) =
      ((ledger.liveOn device).filter (·.isExpiredAt now)).map
        fun live => { live with status := .expired } := by
  have dropped (place : String) (books : δ) (known : ledger.devices.get? place = some books) :
      (Booked.expire books now).1 = (ledger.liveOn place).filter (·.isExpiredAt now) := by
    have distinct := coherent.distinct place
    rw [liveOn_eq known] at distinct ⊢
    exact (LawfulBooked.expire_eq books now distinct).1
  have placed (place : String) (books : δ) (known : ledger.devices.get? place = some books)
      (live : GpuAllocation) (member : live ∈ (Booked.expire books now).1) :
      live.device = place := by
    rw [dropped place books known] at member
    exact coherent.located place live (List.mem_filter.mp member).1
  rw [Ledger.expire, List.filter_map]
  refine congrArg (List.map _) ((ledger.devices.filter_flatMap_values _ _ placed device).trans ?_)
  cases known : ledger.devices.get? device with
  | none => simp [liveOn, known]
  | some books => exact dropped device books known

theorem mem_expire {ledger : Ledger δ} (coherent : ledger.Coherent) {now : Timestamp}
    {allocation : GpuAllocation} :
    allocation ∈ (ledger.expire now).1 ↔
      ∃ device, ∃ live ∈ ledger.liveOn device, live.isExpiredAt now ∧
        { live with status := .expired } = allocation := by
  simp only [Ledger.expire, List.mem_map, List.mem_flatMap]
  constructor
  · rintro ⟨live, ⟨books, stored, dropped⟩, same⟩
    obtain ⟨device, known⟩ := Keyed.mem_values.mp stored
    have distinct := coherent.distinct device
    rw [liveOn_eq known] at distinct
    rw [(LawfulBooked.expire_eq books now distinct).1, List.mem_filter] at dropped
    exact ⟨device, live, liveOn_eq known ▸ dropped.1, dropped.2, same⟩
  · rintro ⟨device, live, member, expired, same⟩
    have distinct := coherent.distinct device
    unfold liveOn at member distinct
    cases known : ledger.devices.get? device with
    | none => simp [known] at member
    | some books =>
        rw [known] at member distinct
        refine ⟨live, ⟨books, Keyed.mem_values.mpr ⟨device, known⟩, ?_⟩, same⟩
        rw [(LawfulBooked.expire_eq books now distinct).1]
        exact List.mem_filter.mpr ⟨member, expired⟩

theorem id_mem_expire {ledger : Ledger δ} (coherent : ledger.Coherent) {now : Timestamp}
    {id : String} : id ∈ (ledger.expire now).1.map (·.id) ↔
      ∃ device, ∃ live ∈ ledger.liveOn device, live.isExpiredAt now ∧ live.id = id := by
  constructor
  · intro member
    obtain ⟨allocation, expired, named⟩ := List.mem_map.mp member
    obtain ⟨device, live, held, past, rfl⟩ := (mem_expire coherent).mp expired
    exact ⟨device, live, held, past, named⟩
  · rintro ⟨device, live, held, past, named⟩
    exact List.mem_map.mpr ⟨_, (mem_expire coherent).mpr ⟨device, live, held, past, rfl⟩, named⟩

/-- Whoever lives somewhere expires by its own time, and by that of nobody else. -/
theorem id_mem_expire_of_live {ledger : Ledger δ} (coherent : ledger.Coherent) {now : Timestamp}
    {device : String} {live : GpuAllocation} (held : live ∈ ledger.liveOn device) :
    live.id ∈ (ledger.expire now).1.map (·.id) ↔ live.isExpiredAt now = true := by
  rw [id_mem_expire coherent]
  constructor
  · rintro ⟨other, expired, otherHeld, past, same⟩
    have here : other = device := coherent.device_unique
      (List.mem_map.mpr ⟨expired, otherHeld, same⟩) (List.mem_map_of_mem held)
    rw [here] at otherHeld
    exact eq_of_id_eq (coherent.distinct device) otherHeld held same ▸ past
  · intro past
    exact ⟨device, live, held, past, rfl⟩

theorem owners_expire {ledger : Ledger δ} (coherent : ledger.Coherent) (now : Timestamp)
    (id device : String) :
    (ledger.expire now).2.owners.get? id = some device ↔
      ∃ live ∈ ledger.liveOn device, live.isExpiredAt now = false ∧ live.id = id := by
  rw [get?_owners_expire]
  constructor
  · intro found
    split at found
    · cases found
    · rename_i kept
      obtain ⟨live, held, named⟩ := List.mem_map.mp ((coherent.indexed id device).mp found)
      cases past : live.isExpiredAt now with
      | true => exact absurd ((id_mem_expire coherent).mpr ⟨device, live, held, past, named⟩) kept
      | false => exact ⟨live, held, past, named⟩
  · rintro ⟨live, held, fresh, rfl⟩
    have indexed := (coherent.indexed live.id device).mpr (List.mem_map_of_mem held)
    rw [if_neg, indexed]
    intro member
    rw [(id_mem_expire_of_live coherent held).mp member] at fresh
    cases fresh

theorem Coherent.expire {ledger : Ledger δ} (coherent : ledger.Coherent) (now : Timestamp) :
    (ledger.expire now).2.Coherent := by
  refine ⟨?_, ?_, ?_⟩
  · intro device
    rw [liveOn_expire coherent]
    exact nodup_filter _ (coherent.distinct device)
  · intro device allocation member
    rw [liveOn_expire coherent] at member
    exact coherent.located device allocation (List.mem_filter.mp member).1
  · intro id device
    rw [owners_expire coherent, liveOn_expire coherent]
    simp [and_assoc]

end Expiry

end Books

section Views

/-! What no removal changes of the books of a device, a ledger keeps of each device. -/

variable {β : Type} {ledger : Ledger δ} {view : δ → β}

theorem map_get?_insert {place : String} {books changed : δ}
    (found : ledger.devices.get? place = some books) (same : view changed = view books)
    (device : String) : ((ledger.devices.insert place changed).get? device).map view =
      (ledger.devices.get? device).map view := by
  rw [Keyed.get?_insert]
  split
  · rename_i here
    rw [here, found, Option.map_some, Option.map_some, same]
  · rfl

theorem map_get?_release [Booked δ]
    (kept : ∀ {books left id live}, Booked.remove? books id = some (live, left) →
      view left = view books) (id device : String) :
    ((ledger.release id).2.devices.get? device).map view =
      (ledger.devices.get? device).map view := by
  unfold release
  cases ledger.owners.get? id with
  | none => rfl
  | some place =>
      dsimp only
      cases taken : (ledger.devices.get? place).bind (Booked.remove? · id) with
      | none => rfl
      | some result =>
          obtain ⟨books, found, removed⟩ := Option.bind_eq_some_iff.mp taken
          exact map_get?_insert found (kept removed) device

theorem map_get?_expire [Booked δ] {now : Timestamp}
    (kept : ∀ books, view (Booked.expire books now).2 = view books) (device : String) :
    ((ledger.expire now).2.devices.get? device).map view =
      (ledger.devices.get? device).map view := by
  unfold expire
  rw [Keyed.get?_map, Option.map_map]
  exact congrArg (Option.map · _) (funext kept)

end Views

end Ledger

end GpuSharing
