import GpuSharing.Partition.Allocator
import GpuSharing.Proofs.Ledger
import GpuSharing.Proofs.Partition.Dies

/-!
# Accounts of a divided device

The dies of a device are written down three times: on the device, with each live
allocation, and as its share. The accounts are in order when these agree, in every
mode, and what changes the device keeps them so.
-/

set_option autoImplicit false

namespace GpuSharing

namespace ComputeMode

def shares (mode : ComputeMode) : List Share := mode.validFractions.map Share.nearest

theorem shares_spx : spx.shares = [⟨1000⟩] := by decide +kernel

theorem shares_cpx :
    cpx.shares = [⟨125⟩, ⟨250⟩, ⟨375⟩, ⟨500⟩, ⟨625⟩, ⟨750⟩, ⟨875⟩, ⟨1000⟩] := by
  decide +kernel

theorem shares_tpx : tpx.shares = [⟨333⟩, ⟨667⟩, ⟨1000⟩] := by decide +kernel

theorem mem_shares_of_shareOf {mode : ComputeMode} {fraction : Float} {share : Share}
    (valid : mode.shareOf fraction = .ok share) : share ∈ mode.shares := by
  unfold shareOf at valid
  split at valid
  · rename_i nearby found
    cases valid
    exact List.mem_map_of_mem (List.mem_of_find?_eq_some found)
  · cases valid

/-- Given away by dies, a share is a whole number of them. -/
theorem millis_of_mem_cpx {share : Share} (member : share ∈ cpx.shares) :
    share.millis.toNat = 125 * share.dies.toNat := by
  rw [shares_cpx] at member
  revert share
  decide

end ComputeMode

namespace PartitionedDevice

instance : LawfulBooked PartitionedDevice where
  remove?_eq device id := by
    change (device.remove? id).map (fun result => (result.1, result.2.pool.allocations)) =
      takeAllocation? id device.pool.allocations
    simp [remove?, SharePool.remove?, Function.comp_def]
  expire_eq _ _ _ := ⟨rfl, rfl⟩

/-- The dies on the device, those of the live allocations and their shares agree. -/
structure Accounted (device : PartitionedDevice) : Prop where
  distinct : (device.pool.allocations.map (·.id)).Nodup
  valid : ∀ live ∈ device.pool.allocations, live.share ∈ device.config.computeMode.shares
  recorded : ∀ live ∈ device.pool.allocations,
    live.dies = (device.dies.diesOf live.id).map Die.index
  owned : ∀ die owner, device.dies.ownerOf die = some owner →
    owner ∈ device.pool.allocations.map (·.id)
  exclusive : device.config.computeMode = .spx → device.pool.allocations.length ≤ 1
  counted : device.config.computeMode = .cpx → ∀ live ∈ device.pool.allocations,
    (device.dies.diesOf live.id).length = live.share.dies.toNat
  fitting : device.config.computeMode = .tpx → totalMillis device.pool.allocations ≤ Share.scale
  undivided : device.config.computeMode ≠ .cpx → device.dies = .empty

theorem accounted_empty (config : PartitionConfig) (memoryTotalMib : UInt64) :
    Accounted { config, pool := { memoryTotalMib } } where
  distinct := List.nodup_nil
  valid _ member := by cases member
  recorded _ member := by cases member
  owned _ _ held := by simp at held
  exclusive _ := Nat.zero_le 1
  counted _ _ member := by cases member
  fitting _ := Nat.zero_le _
  undivided _ := rfl

theorem Accounted.resize {device : PartitionedDevice} (accounted : device.Accounted)
    (memoryTotalMib : UInt64) :
    Accounted { device with pool := { device.pool with memoryTotalMib } } :=
  ⟨accounted.distinct, accounted.valid, accounted.recorded, accounted.owned,
    accounted.exclusive, accounted.counted, accounted.fitting, accounted.undivided⟩

/-- Where nothing lives, no die is held. -/
theorem Accounted.dies_eq_empty {device : PartitionedDevice} (accounted : device.Accounted)
    (unused : device.pool.allocations = []) : device.dies = .empty := by
  refine DieMap.ext_ownerOf fun die => ?_
  cases held : device.dies.ownerOf die with
  | none => rw [DieMap.ownerOf_empty]
  | some owner =>
      have live := accounted.owned die owner held
      rw [unused] at live
      cases live

section Removals

/-- Dropping allocations keeps the accounts, if their dies and no others are freed. -/
theorem Accounted.keep {device after : PartitionedDevice} (accounted : device.Accounted)
    (keep : GpuAllocation → Bool) (config : after.config = device.config)
    (left : after.pool.allocations = device.pool.allocations.filter keep)
    (freed : ∀ die owner, after.dies.ownerOf die = some owner ↔
      device.dies.ownerOf die = some owner ∧
        owner ∈ (device.pool.allocations.filter keep).map (·.id)) : after.Accounted := by
  have member {live : GpuAllocation} (kept : live ∈ after.pool.allocations) :
      live ∈ device.pool.allocations := by
    rw [left] at kept
    exact (List.mem_filter.mp kept).1
  have held {live : GpuAllocation} (kept : live ∈ after.pool.allocations) :
      after.dies.diesOf live.id = device.dies.diesOf live.id := by
    refine DieMap.diesOf_eq fun die => ?_
    rw [left] at kept
    rw [freed die live.id]
    exact ⟨And.left, fun owned => ⟨owned, List.mem_map_of_mem kept⟩⟩
  refine ⟨?_, ?_, ?_, ?_, ?_, ?_, ?_, ?_⟩
  · rw [left]
    exact nodup_filter keep accounted.distinct
  · intro live kept
    rw [config]
    exact accounted.valid live (member kept)
  · intro live kept
    rw [held kept]
    exact accounted.recorded live (member kept)
  · intro die owner owned
    rw [left]
    exact ((freed die owner).mp owned).2
  · intro mode
    rw [left]
    exact Nat.le_trans (List.length_filter_le _ _) (accounted.exclusive (config ▸ mode))
  · intro mode live kept
    rw [held kept]
    exact accounted.counted (config ▸ mode) live (member kept)
  · intro mode
    rw [left]
    exact Nat.le_trans (totalOf_filter_le _ _ _) (accounted.fitting (config ▸ mode))
  · intro mode
    have empty := accounted.undivided (config ▸ mode)
    refine DieMap.ext_ownerOf fun die => ?_
    cases owned : after.dies.ownerOf die with
    | none => simp
    | some owner =>
        have before := ((freed die owner).mp owned).1
        rw [empty] at before
        simp at before

theorem remove?_eq_some {device left : PartitionedDevice} {id : String} {taken : GpuAllocation} :
    device.remove? id = some (taken, left) ↔
      ∃ pool, device.pool.remove? id = some (taken, pool) ∧
        left = { device with pool, dies := (device.dies.release id).2 } := by
  unfold remove?
  cases removed : device.pool.remove? id with
  | none => simp
  | some result =>
      obtain ⟨allocation, pool⟩ := result
      simp only [Option.map_some, Option.some.injEq, Prod.mk.injEq]
      constructor
      · rintro ⟨rfl, rfl⟩
        exact ⟨pool, ⟨rfl, rfl⟩, rfl⟩
      · rintro ⟨_, ⟨rfl, rfl⟩, rfl⟩
        exact ⟨rfl, rfl⟩

theorem Accounted.remove {device left : PartitionedDevice} {id : String} {taken : GpuAllocation}
    (accounted : device.Accounted) (removed : device.remove? id = some (taken, left)) :
    left.Accounted := by
  have found : takeAllocation? id device.pool.allocations = some (taken, left.pool.allocations) :=
    LawfulBooked.takes (show Booked.remove? device id = some (taken, left) from removed)
  have dropped := takeAllocation?_left accounted.distinct found
  obtain ⟨pool, _, rfl⟩ := remove?_eq_some.mp removed
  refine accounted.keep _ rfl dropped fun die owner => ?_
  rw [DieMap.ownerOf_release]
  by_cases released : device.dies.ownerOf die = some id
  · simp only [released, ↓reduceIte, reduceCtorEq, Option.some.injEq, false_iff, List.mem_map,
      List.mem_filter, decide_eq_true_eq]
    rintro ⟨rfl, live, ⟨_, other⟩, same⟩
    exact other same
  · simp only [released, ↓reduceIte]
    refine ⟨fun held => ⟨held, ?_⟩, And.left⟩
    obtain ⟨live, member, rfl⟩ := List.mem_map.mp (accounted.owned die owner held)
    have other : live.id ≠ id := fun same => released (same ▸ held)
    exact List.mem_map_of_mem (List.mem_filter.mpr ⟨member, by simpa using other⟩)

theorem Accounted.expire {device : PartitionedDevice} (accounted : device.Accounted)
    (now : Timestamp) : (device.expire now).2.Accounted := by
  refine accounted.keep (fun live => !live.isExpiredAt now) rfl rfl fun die owner => ?_
  simp only [PartitionedDevice.expire, SharePool.expire, DieMap.ownerOf_foldl_release]
  refine and_congr_right fun held => ?_
  obtain ⟨live, member, rfl⟩ := List.mem_map.mp (accounted.owned die owner held)
  rw [id_mem_filter accounted.distinct member, id_mem_filter accounted.distinct member]
  simp

end Removals

section Grants

/-- A claim only concerns the dies of a device that is given away by dies. -/
theorem claim?_cases {device claimed : PartitionedDevice} {allocation granted : GpuAllocation}
    (claim : device.claim? allocation = some (granted, claimed)) :
    (device.config.computeMode ≠ .cpx ∧ granted = allocation ∧ claimed = device) ∨
    (device.config.computeMode = .cpx ∧ ∃ taken dies,
      device.dies.claim? allocation.id allocation.share.dies.toNat = some (taken, dies) ∧
        granted = { allocation with dies := taken.map Die.index } ∧
        claimed = { device with dies }) := by
  unfold claim? at claim
  by_cases mode : device.config.computeMode = .cpx
  · simp only [mode, ↓reduceIte, Option.map_eq_some_iff, Prod.mk.injEq] at claim
    obtain ⟨⟨taken, dies⟩, claimedDies, rfl, rfl⟩ := claim
    exact .inr ⟨mode, taken, dies, claimedDies, rfl, rfl⟩
  · simp only [mode, ↓reduceIte, Option.some.injEq, Prod.mk.injEq] at claim
    exact .inl ⟨mode, claim.1.symm, claim.2.symm⟩

/-- What a check asks of the device besides memory. -/
theorem room_of_check {device : PartitionedDevice} {id : String} {share : Share}
    {memoryMib : UInt64} {result : Unit}
    (checked : device.check id share memoryMib = .ok result) :
    match device.config.computeMode with
    | .spx => device.pool.allocations = []
    | .cpx => share.dies.toNat ≤ device.dies.freeCount
    | .tpx => share ≤ device.pool.shareUsed.remaining := by
  unfold check at checked
  cases mode : device.config.computeMode with
  | spx =>
      rw [mode] at checked
      cases held : device.pool.allocations with
      | nil => rfl
      | cons holder rest =>
          rw [held] at checked
          cases checked
  | cpx =>
      simp only [mode, Outcome.bind_eq_ok, require_eq_ok] at checked
      obtain ⟨_, enough, _⟩ := checked
      exact enough
  | tpx =>
      simp only [mode, SharePool.check_eq_ok] at checked
      exact checked.1

/-- A share that has passed the check finds its dies free. -/
theorem claim?_of_check {device : PartitionedDevice} {id : String} {allocation : GpuAllocation}
    {memoryMib : UInt64} {result : Unit}
    (checked : device.check id allocation.share memoryMib = .ok result) :
    ∃ granted claimed, device.claim? allocation = some (granted, claimed) := by
  have room := room_of_check checked
  unfold claim?
  by_cases mode : device.config.computeMode = .cpx
  · rw [mode] at room
    simp only [mode, ↓reduceIte]
    exact ⟨_, _, by rw [DieMap.claim?_eq_some.mpr ⟨room, rfl, rfl⟩]; rfl⟩
  · simp only [mode, ↓reduceIte]
    exact ⟨_, _, rfl⟩

section Push

variable {device : PartitionedDevice} {allocation : GpuAllocation}

private theorem forall_mem_push {holds : GpuAllocation → Prop}
    (old : ∀ live ∈ device.pool.allocations, holds live) (new : holds allocation) :
    ∀ live ∈ (device.pool.push allocation).allocations, holds live := by
  intro live member
  rcases List.mem_append.mp member with before | last
  · exact old live before
  · exact List.mem_singleton.mp last ▸ new

/-- A grant on a device that is not given away by dies leaves its dies alone. -/
theorem Accounted.push (accounted : device.Accounted) {id : String} {memoryMib : UInt64}
    {result : Unit} (mode : device.config.computeMode ≠ .cpx)
    (checked : device.check id allocation.share memoryMib = .ok result)
    (valid : allocation.share ∈ device.config.computeMode.shares) (bare : allocation.dies = [])
    (fresh : allocation.id ∉ device.pool.allocations.map (·.id)) :
    Accounted { device with pool := device.pool.push allocation } := by
  have room := room_of_check checked
  have noDies : device.dies = .empty := accounted.undivided mode
  refine ⟨nodup_append_singleton accounted.distinct fresh, forall_mem_push accounted.valid valid,
    forall_mem_push accounted.recorded ?_, ?_, ?_, fun divided => absurd divided mode, ?_,
    fun _ => noDies⟩
  · rw [bare, noDies, DieMap.diesOf_empty]
    rfl
  · intro die owner held
    change device.dies.ownerOf die = some owner at held
    simp [noDies] at held
  · intro whole
    change device.config.computeMode = .spx at whole
    rw [whole] at room
    simp [SharePool.push, room]
  · intro thirds
    change device.config.computeMode = .tpx at thirds
    have before := accounted.fitting thirds
    rw [thirds] at room
    simp only [Share.le_iff, Share.toNat_remaining, SharePool.toNat_shareUsed] at room
    simp only [SharePool.push, totalMillis, totalOf_append, totalOf_cons, totalOf_nil,
      Share.scale, UInt32.size] at room before ⊢
    omega

/-- A grant by dies takes dies that no other allocation has. -/
theorem Accounted.pushDies (accounted : device.Accounted) {taken : List Die} {dies : DieMap}
    (mode : device.config.computeMode = .cpx)
    (claimed : device.dies.claim? allocation.id allocation.share.dies.toNat = some (taken, dies))
    (valid : allocation.share ∈ device.config.computeMode.shares)
    (fresh : allocation.id ∉ device.pool.allocations.map (·.id)) :
    Accounted { device with
      dies, pool := device.pool.push { allocation with dies := taken.map Die.index } } := by
  have unknown (die : Die) : device.dies.ownerOf die ≠ some allocation.id :=
    fun held => fresh (accounted.owned die _ held)
  have own := DieMap.diesOf_claim? claimed unknown
  have others (live : GpuAllocation) (member : live ∈ device.pool.allocations) :
      dies.diesOf live.id = device.dies.diesOf live.id :=
    DieMap.diesOf_claim?_of_ne claimed fun same => fresh (same ▸ List.mem_map_of_mem member)
  refine ⟨nodup_append_singleton accounted.distinct fresh, forall_mem_push accounted.valid valid,
    forall_mem_push ?_ ?_, ?_, ?_, fun _ => forall_mem_push ?_ ?_, ?_,
    fun whole => absurd mode whole⟩
  · intro live member
    rw [others live member]
    exact accounted.recorded live member
  · rw [own]
  · intro die owner owned
    simp only [SharePool.push, List.map_append, List.map_singleton, List.mem_append,
      List.mem_singleton]
    rw [DieMap.ownerOf_claim? claimed] at owned
    split at owned
    · exact .inr (Option.some.inj owned).symm
    · exact .inl (accounted.owned die owner owned)
  · exact fun whole => absurd (mode.symm.trans whole) (by decide)
  · intro live member
    rw [others live member]
    exact accounted.counted mode live member
  · rw [own]
    exact DieMap.length_claim? claimed
  · exact fun thirds => absurd (mode.symm.trans thirds) (by decide)

end Push

theorem Accounted.grant {device claimed : PartitionedDevice}
    {allocation granted : GpuAllocation} (accounted : device.Accounted)
    (claim : device.claim? allocation = some (granted, claimed)) {id : String}
    {memoryMib : UInt64} {result : Unit}
    (checked : device.check id allocation.share memoryMib = .ok result)
    (valid : allocation.share ∈ device.config.computeMode.shares) (bare : allocation.dies = [])
    (fresh : allocation.id ∉ device.pool.allocations.map (·.id)) :
    Accounted { claimed with pool := claimed.pool.push granted } := by
  rcases claim?_cases claim with
    ⟨mode, rfl, rfl⟩ | ⟨mode, taken, dies, claimedDies, rfl, rfl⟩
  · exact accounted.push mode checked valid bare fresh
  · exact accounted.pushDies mode claimedDies valid fresh

end Grants

section Consistency

/-- What is known of the dies of a device that is given away by dies: who holds them,
what the holders have written down, and what the usage of the device reports. -/
structure DiesOwned (device : PartitionedDevice) : Prop where
  one_holder : ∀ first ∈ device.pool.allocations, ∀ second ∈ device.pool.allocations,
    ∀ index ∈ first.dies, index ∈ second.dies → first = second
  mapped : ∀ die owner, device.dies.ownerOf die = some owner ↔
    ∃ live ∈ device.pool.allocations, live.id = owner ∧ die.index ∈ live.dies
  in_range : ∀ live ∈ device.pool.allocations, ∀ index ∈ live.dies, index.toNat < dieCount
  ascending : ∀ live ∈ device.pool.allocations, live.dies.Pairwise (· < ·)
  counted : ∀ live ∈ device.pool.allocations, live.share.millis.toNat = 125 * live.dies.length
  reported : ∀ id, ∃ free, (device.usage id).freeDies = some free ∧
    free.toNat = device.dies.freeCount ∧
    (device.usage id).shareUsed.millis.toNat = 125 * (dieCount - free.toNat)

/-- What holds of a device in each of its modes. -/
structure Consistent (device : PartitionedDevice) : Prop where
  distinct : (device.pool.allocations.map (·.id)).Nodup
  byDie : device.config.computeMode = .cpx → device.DiesOwned
  whole : device.config.computeMode = .spx → device.pool.allocations.length ≤ 1 ∧
    ∀ live ∈ device.pool.allocations, live.share.millis.toNat = 1000
  thirds : device.config.computeMode = .tpx → totalMillis device.pool.allocations ≤ 1000 ∧
    ∀ live ∈ device.pool.allocations, live.share.millis.toNat ∈ [333, 667, 1000]
  undivided : device.config.computeMode ≠ .cpx → (∀ die, device.dies.ownerOf die = none) ∧
    ∀ live ∈ device.pool.allocations, live.dies = []

variable {device : PartitionedDevice}

theorem Accounted.mem_dies (accounted : device.Accounted) {live : GpuAllocation}
    (member : live ∈ device.pool.allocations) {index : UInt8} :
    index ∈ live.dies ↔ ∃ die, device.dies.ownerOf die = some live.id ∧ die.index = index := by
  rw [accounted.recorded live member, List.mem_map]
  simp only [DieMap.mem_diesOf]

/-- The shares add up to the dies that are not free. -/
theorem Accounted.totalMillis_eq (accounted : device.Accounted)
    (mode : device.config.computeMode = .cpx) :
    totalMillis device.pool.allocations = 125 * (dieCount - device.dies.freeCount) := by
  have sum := DieMap.sum_length_diesOf accounted.distinct accounted.owned
  rw [List.map_map] at sum
  have proportional : totalMillis device.pool.allocations =
      125 * totalOf (fun live => (device.dies.diesOf live.id).length) device.pool.allocations :=
    totalOf_eq_mul fun live member => by
      have valid := accounted.valid live member
      rw [mode] at valid
      rw [accounted.counted mode live member]
      exact ComputeMode.millis_of_mem_cpx valid
  have claimed : totalOf (fun live => (device.dies.diesOf live.id).length)
      device.pool.allocations + device.dies.freeCount = dieCount := sum
  rw [proportional]
  omega

theorem Accounted.totalMillis_le (accounted : device.Accounted) :
    totalMillis device.pool.allocations ≤ Share.scale := by
  cases mode : device.config.computeMode with
  | spx =>
      have one := accounted.exclusive mode
      have valid := accounted.valid
      rw [mode, ComputeMode.shares_spx] at valid
      cases held : device.pool.allocations with
      | nil => exact Nat.zero_le _
      | cons live rest =>
          rw [held] at one valid
          have alone : rest = [] := List.length_eq_zero_iff.mp (Nat.le_zero.mp (Nat.le_of_succ_le_succ one))
          have share := List.mem_singleton.mp (valid live List.mem_cons_self)
          simp [alone, totalMillis, share, Share.scale]
  | cpx =>
      rw [accounted.totalMillis_eq mode]
      simp only [dieCount, Share.scale]
      omega
  | tpx => exact accounted.fitting mode

theorem Accounted.diesOwned (accounted : device.Accounted)
    (mode : device.config.computeMode = .cpx) : device.DiesOwned := by
  refine ⟨?_, ?_, ?_, ?_, ?_, ?_⟩
  · intro first firstMember second secondMember index inFirst inSecond
    obtain ⟨die, firstOwns, rfl⟩ := (accounted.mem_dies firstMember).mp inFirst
    obtain ⟨other, secondOwns, same⟩ := (accounted.mem_dies secondMember).mp inSecond
    rw [Die.index_inj.mp same, firstOwns] at secondOwns
    exact eq_of_id_eq accounted.distinct firstMember secondMember (Option.some.inj secondOwns)
  · intro die owner
    constructor
    · intro owns
      obtain ⟨live, member, rfl⟩ := List.mem_map.mp (accounted.owned die owner owns)
      exact ⟨live, member, rfl, (accounted.mem_dies member).mpr ⟨die, owns, rfl⟩⟩
    · rintro ⟨live, member, rfl, inDies⟩
      obtain ⟨other, owns, same⟩ := (accounted.mem_dies member).mp inDies
      exact Die.index_inj.mp same ▸ owns
  · intro live member index inDies
    obtain ⟨die, _, rfl⟩ := (accounted.mem_dies member).mp inDies
    exact Die.toNat_index die ▸ die.isLt
  · intro live member
    rw [accounted.recorded live member]
    exact List.pairwise_map.mpr
      ((DieMap.pairwise_diesWhere device.dies _).imp fun less => Die.index_lt_iff.mpr less)
  · intro live member
    have valid := accounted.valid live member
    rw [mode] at valid
    rw [accounted.recorded live member, List.length_map, accounted.counted mode live member]
    exact ComputeMode.millis_of_mem_cpx valid
  · intro id
    have sum := DieMap.sum_length_diesOf accounted.distinct accounted.owned
    have free : (UInt8.ofNat device.dies.freeCount).toNat = device.dies.freeCount := by
      rw [UInt8.toNat_ofNat']
      refine Nat.mod_eq_of_lt (Nat.lt_of_le_of_lt ?_ (show dieCount < 2 ^ 8 by decide))
      omega
    refine ⟨_, by rw [usage, if_pos mode], free, ?_⟩
    change device.pool.shareUsed.millis.toNat = _
    rw [free, SharePool.toNat_shareUsed, accounted.totalMillis_eq mode]
    simp only [dieCount, UInt32.size]
    omega

theorem Accounted.consistent (accounted : device.Accounted) : device.Consistent := by
  refine ⟨accounted.distinct, accounted.diesOwned, ?_, ?_, ?_⟩
  · intro mode
    refine ⟨accounted.exclusive mode, fun live member => ?_⟩
    have valid := accounted.valid live member
    rw [mode, ComputeMode.shares_spx, List.mem_singleton] at valid
    exact congrArg (·.millis.toNat) valid
  · intro mode
    refine ⟨accounted.fitting mode, fun live member => ?_⟩
    have valid := accounted.valid live member
    rw [mode, ComputeMode.shares_tpx] at valid
    exact List.mem_map_of_mem (f := (·.millis.toNat)) valid
  · intro mode
    have empty := accounted.undivided mode
    refine ⟨fun die => by simp [empty], fun live member => ?_⟩
    rw [accounted.recorded live member, empty, DieMap.diesOf_empty]
    rfl

end Consistency

end PartitionedDevice

end GpuSharing
