import GpuSharing.Proofs.Fractional
import GpuSharing.Proofs.Partition.Allocator
import GpuSharing.Proofs.Turns.Scheduler

/-!
# What removals leave

Some books are kept by name: of every copy that they hold of their allocations, only what
belongs to the kept names stays. A release keeps all names but one, and an expiry all that
have not expired, on books of every kind. Names can be left out in any order, so what
several removals leave does not depend on theirs.
-/

set_option autoImplicit false

namespace GpuSharing

/-- Books of which a part can be kept by name. They are settled when the copies that they
hold of their allocations agree, and then a removal is nothing but a choice of names. -/
class Prunable (δ : Type) [Booked δ] where
  Settled : δ → Prop
  prune : (String → Bool) → δ → δ
  allocations_prune : ∀ keep books,
    Booked.allocations (prune keep books) = (Booked.allocations books).filter (keep ·.id)
  settled_prune : ∀ keep books, Settled books → Settled (prune keep books)
  prune_prune : ∀ first second books,
    prune second (prune first books) = prune (fun id => first id && second id) books
  prune_all : ∀ books, Settled books → prune (fun _ => true) books = books
  prune_congr : ∀ first second books, Settled books →
    (∀ live ∈ Booked.allocations books, first live.id = second live.id) →
    prune first books = prune second books
  remove?_eq : ∀ books id taken left, Settled books →
    Booked.remove? books id = some (taken, left) → left = prune (· ≠ id) books
  expire_eq : ∀ books now, Settled books →
    (Booked.expire books now).2 = prune (· ∉ (Booked.expire books now).1.map (·.id)) books

section Names

theorem not_mem_nil_eq :
    (fun id : String => decide (id ∉ ([] : List String))) = fun _ => true := by
  simp

theorem not_mem_cons_eq (id : String) (rest : List String) :
    (fun name => decide (name ∉ id :: rest)) =
      fun name => decide (name ≠ id) && decide (name ∉ rest) := by
  simp only [List.mem_cons, not_or, Bool.decide_and]

variable {allocations : List GpuAllocation}

/-- Leaving out the names of what is dropped keeps all else. -/
theorem filter_not_dropped (distinct : (allocations.map (·.id)).Nodup)
    (drop : GpuAllocation → Bool) :
    allocations.filter (fun live => live.id ∉ (allocations.filter drop).map (·.id)) =
      allocations.filter fun live => !drop live := by
  refine List.filter_congr fun live member => ?_
  simp only [id_mem_filter distinct member, decide_not, Bool.decide_eq_true]

end Names

namespace SharePool

def prune (keep : String → Bool) (pool : SharePool) : SharePool :=
  { pool with allocations := pool.allocations.filter (keep ·.id) }

theorem prune_congr {first second : String → Bool} {pool : SharePool}
    (same : ∀ live ∈ pool.allocations, first live.id = second live.id) :
    pool.prune first = pool.prune second := by
  rw [prune, prune, List.filter_congr same]

theorem remove?_eq_prune {pool left : SharePool} {id : String} {taken : GpuAllocation}
    (distinct : (pool.allocations.map (·.id)).Nodup)
    (removed : pool.remove? id = some (taken, left)) : left = pool.prune (· ≠ id) := by
  obtain ⟨⟨_, rest⟩, found, same⟩ := Option.map_eq_some_iff.mp removed
  obtain ⟨rfl, rfl⟩ := Prod.mk.inj same
  rw [prune, takeAllocation?_left distinct found]

theorem expire_eq_prune {pool : SharePool} (distinct : (pool.allocations.map (·.id)).Nodup)
    (now : Timestamp) :
    (pool.expire now).2 = pool.prune (· ∉ (pool.expire now).1.map (·.id)) := by
  rw [prune, expire, filter_not_dropped distinct]

instance : Prunable SharePool where
  Settled pool := (pool.allocations.map (·.id)).Nodup
  prune := prune
  allocations_prune _ _ := rfl
  settled_prune keep _ distinct := nodup_filter (keep ·.id) distinct
  prune_prune first second pool := by simp [prune, List.filter_filter, Bool.and_comm]
  prune_all pool _ := by simp [prune]
  prune_congr _ _ _ _ same := prune_congr same
  remove?_eq _ _ _ _ distinct removed := remove?_eq_prune distinct removed
  expire_eq _ now distinct := expire_eq_prune distinct now

end SharePool

namespace DieMap

def prune (keep : String → Bool) (map : DieMap) : DieMap :=
  ⟨map.owners.map (Option.filter keep)⟩

@[simp] theorem ownerOf_prune (keep : String → Bool) (map : DieMap) (die : Die) :
    (map.prune keep).ownerOf die = (map.ownerOf die).filter keep := by
  simp [prune, ownerOf]

theorem release_eq_prune (map : DieMap) (owner : String) :
    (map.release owner).2 = map.prune (· ≠ owner) := by
  refine ext_ownerOf fun die => ?_
  rw [ownerOf_release, ownerOf_prune, filter_holder_ne]

/-- Releasing several owners leaves the dies of all others with them. -/
theorem foldl_release_eq_prune (map : DieMap) (owners : List GpuAllocation) :
    owners.foldl (fun dies owner => (dies.release owner.id).2) map =
      map.prune (· ∉ owners.map (·.id)) := by
  refine ext_ownerOf fun die => Option.ext fun owner => ?_
  rw [ownerOf_foldl_release (fun live : GpuAllocation => live.id), ownerOf_prune,
    Option.filter_eq_some_iff, decide_eq_true_eq]

end DieMap

namespace PartitionedDevice

def prune (keep : String → Bool) (device : PartitionedDevice) : PartitionedDevice :=
  { device with pool := device.pool.prune keep, dies := device.dies.prune keep }

variable {device : PartitionedDevice}

theorem Accounted.prune (accounted : device.Accounted) (keep : String → Bool) :
    (device.prune keep).Accounted := by
  refine accounted.keep (keep ·.id) rfl rfl fun die owner => ?_
  change (device.dies.prune keep).ownerOf die = some owner ↔ _
  rw [DieMap.ownerOf_prune, Option.filter_eq_some_iff, filter_names, List.mem_filter]
  refine and_congr_right fun owned => ?_
  exact (and_iff_right (accounted.owned die owner owned)).symm

theorem Accounted.prune_congr (accounted : device.Accounted) {first second : String → Bool}
    (same : ∀ live ∈ device.pool.allocations, first live.id = second live.id) :
    device.prune first = device.prune second := by
  have dies : device.dies.prune first = device.dies.prune second := by
    refine DieMap.ext_ownerOf fun die => ?_
    rw [DieMap.ownerOf_prune, DieMap.ownerOf_prune]
    refine filter_holder_congr fun owner owned => ?_
    obtain ⟨live, held, rfl⟩ := List.mem_map.mp (accounted.owned die owner owned)
    exact same live held
  rw [PartitionedDevice.prune, PartitionedDevice.prune, SharePool.prune_congr same, dies]

theorem Accounted.remove?_eq_prune (accounted : device.Accounted) {left : PartitionedDevice}
    {id : String} {taken : GpuAllocation} (removed : device.remove? id = some (taken, left)) :
    left = device.prune (· ≠ id) := by
  obtain ⟨pool, fromPool, rfl⟩ := remove?_eq_some.mp removed
  rw [PartitionedDevice.prune, DieMap.release_eq_prune,
    SharePool.remove?_eq_prune accounted.distinct fromPool]

theorem Accounted.expire_eq_prune (accounted : device.Accounted) (now : Timestamp) :
    (device.expire now).2 = device.prune (· ∉ (device.expire now).1.map (·.id)) := by
  have pool := SharePool.expire_eq_prune accounted.distinct now
  have dies := DieMap.foldl_release_eq_prune device.dies (device.pool.expire now).1
  exact congrArg₂ (fun pool dies => { device with pool, dies }) pool dies

theorem prune_prune (first second : String → Bool) :
    (device.prune first).prune second = device.prune fun id => first id && second id := by
  have pool := Prunable.prune_prune first second device.pool
  have dies : (device.dies.prune first).prune second =
      device.dies.prune fun id => first id && second id :=
    DieMap.ext_ownerOf fun die => by simp only [DieMap.ownerOf_prune, Option.filter_filter]
  exact congrArg₂ (fun pool dies => { device with pool, dies }) pool dies

theorem Accounted.prune_all (accounted : device.Accounted) :
    device.prune (fun _ => true) = device := by
  have pool := Prunable.prune_all device.pool accounted.distinct
  have dies : device.dies.prune (fun _ => true) = device.dies :=
    DieMap.ext_ownerOf fun die => by rw [DieMap.ownerOf_prune, filter_holder_all]
  exact congrArg₂ (fun pool dies => { device with pool, dies }) pool dies

instance : Prunable PartitionedDevice where
  Settled := Accounted
  prune := prune
  allocations_prune _ _ := rfl
  settled_prune keep _ accounted := accounted.prune keep
  prune_prune _ _ _ := prune_prune ..
  prune_all _ accounted := accounted.prune_all
  prune_congr _ _ _ accounted same := accounted.prune_congr same
  remove?_eq _ _ _ _ accounted removed := accounted.remove?_eq_prune removed
  expire_eq _ now accounted := accounted.expire_eq_prune now

end PartitionedDevice

namespace SlicedDevice

/-- The memory in use is counted anew, over the workloads that stay. -/
def prune (keep : String → Bool) (device : SlicedDevice) : SlicedDevice :=
  { device with
    workloads := device.workloads.filter (keep ·.id)
    queue := device.queue.filter keep
    active := device.active.filter keep
    memoryUsedMib := UInt64.ofNat (totalMemory (device.workloads.filter (keep ·.id))) }

variable {device : SlicedDevice}

/-- The memory in use follows from the workloads. -/
theorem InTurn.memory_eq (inTurn : device.InTurn) :
    device.memoryUsedMib = UInt64.ofNat (totalMemory device.workloads) := by
  rw [← inTurn.memory_exact, UInt64.ofNat_toNat]

theorem InTurn.prune (inTurn : device.InTurn) (keep : String → Bool) :
    (device.prune keep).InTurn := by
  refine ⟨nodup_filter (keep ·.id) inTurn.distinct, ?_, ?_, ?_⟩
  · simp only [SlicedDevice.prune, Option.toList_filter, ← List.filter_append, filter_names]
    exact inTurn.everyone.filter keep
  · intro live member
    obtain ⟨held, kept⟩ := List.mem_filter.mp member
    rw [inTurn.status_eq live held]
    refine if_congr ?_ rfl rfl
    change _ ↔ some live.id = device.active.filter keep
    rw [eq_comm, eq_comm (b := device.active.filter keep), Option.filter_eq_some_iff]
    exact (and_iff_left kept).symm
  · have total := totalOf_filter_le (·.memoryMib.toNat) (keep ·.id) device.workloads
    have bound := device.memoryUsedMib.toNat_lt
    rw [inTurn.memory_exact] at bound
    exact UInt64.toNat_ofNat_of_lt' (Nat.lt_of_le_of_lt total bound)

theorem InTurn.prune_all (inTurn : device.InTurn) : device.prune (fun _ => true) = device := by
  simp only [SlicedDevice.prune, List.filter_true, filter_holder_all]
  rw [← inTurn.memory_eq]

theorem InTurn.prune_congr (inTurn : device.InTurn) {first second : String → Bool}
    (same : ∀ live ∈ device.workloads, first live.id = second live.id) :
    device.prune first = device.prune second := by
  have agree (id : String) (member : id ∈ device.active.toList ++ device.queue) :
      first id = second id := by
    obtain ⟨live, held, rfl⟩ := List.mem_map.mp (inTurn.everyone.mem_iff.mp member)
    exact same live held
  have queue : device.queue.filter first = device.queue.filter second :=
    List.filter_congr fun id waits => agree id (List.mem_append_right _ waits)
  have active : device.active.filter first = device.active.filter second :=
    filter_holder_congr fun id turn => agree id (List.mem_append_left _ (by simp [turn]))
  rw [SlicedDevice.prune, SlicedDevice.prune, List.filter_congr same, queue, active]

theorem prune_prune (first second : String → Bool) :
    (device.prune first).prune second = device.prune fun id => first id && second id := by
  simp only [SlicedDevice.prune, List.filter_filter, Option.filter_filter, Bool.and_comm]

theorem InTurn.remove?_eq_prune (inTurn : device.InTurn) {left : SlicedDevice} {id : String}
    {taken : GpuAllocation} (removed : device.remove? id = some (taken, left)) :
    left = device.prune (· ≠ id) := by
  have memory := (inTurn.remove removed).memory_eq
  obtain ⟨⟨_, rest⟩, found, same⟩ := Option.map_eq_some_iff.mp removed
  obtain ⟨rfl, rfl⟩ := Prod.mk.inj same
  have kept := takeAllocation?_left inTurn.distinct found
  rw [SlicedDevice.prune, ← kept, filter_holder_ne]
  exact congrArg (fun memoryUsedMib => { device with
    memoryUsedMib
    workloads := rest
    queue := device.queue.filter (· ≠ id)
    active := if device.active = some id then none else device.active }) memory

/-- Removing names one after another keeps all others. -/
theorem InTurn.removeAll_eq_prune (inTurn : device.InTurn) (ids : List String) :
    (device.removeAll ids).2 = device.prune (· ∉ ids) := by
  induction ids generalizing device with
  | nil =>
      rw [not_mem_nil_eq]
      exact inTurn.prune_all.symm
  | cons id rest ih =>
      unfold SlicedDevice.removeAll
      cases removed : device.remove? id with
      | none =>
          have absent : takeAllocation? id device.workloads = none := by
            simpa [remove?] using removed
          refine (ih inTurn).trans (inTurn.prune_congr fun live held => ?_)
          have other : live.id ≠ id := fun same =>
            takeAllocation?_eq_none.mp absent (same ▸ List.mem_map_of_mem held)
          simp [other]
      | some result =>
          obtain ⟨taken, left⟩ := result
          refine (ih (inTurn.remove removed)).trans ?_
          rw [inTurn.remove?_eq_prune removed, prune_prune, not_mem_cons_eq]

theorem InTurn.expire_eq_prune (inTurn : device.InTurn) (now : Timestamp) :
    (device.expire now).2 = device.prune (· ∉ (device.expire now).1.map (·.id)) := by
  rw [(expire_eq inTurn.distinct now).1]
  exact inTurn.removeAll_eq_prune _

instance : Prunable SlicedDevice where
  Settled := InTurn
  prune := prune
  allocations_prune _ _ := rfl
  settled_prune keep _ inTurn := inTurn.prune keep
  prune_prune _ _ _ := prune_prune ..
  prune_all _ inTurn := inTurn.prune_all
  prune_congr _ _ _ inTurn same := inTurn.prune_congr same
  remove?_eq _ _ _ _ inTurn removed := inTurn.remove?_eq_prune removed
  expire_eq _ now inTurn := inTurn.expire_eq_prune now

end SlicedDevice

namespace Ledger

variable {δ : Type}

theorem ext_get? {first second : Ledger δ}
    (devices : ∀ device, first.devices.get? device = second.devices.get? device)
    (owners : ∀ id, first.owners.get? id = second.owners.get? id) : first = second := by
  cases first with
  | mk firstDevices firstOwners =>
      cases second with
      | mk secondDevices secondOwners =>
          rw [show firstDevices = secondDevices from Keyed.ext_get? devices,
            show firstOwners = secondOwners from Keyed.ext_get? owners]

variable [Booked δ] [Prunable δ]

def prune (keep : String → Bool) (ledger : Ledger δ) : Ledger δ :=
  { devices := ledger.devices.map (Prunable.prune keep)
    owners := ledger.owners.filter fun id _ => keep id }

/-- The index agrees with the books, and the books with themselves. -/
structure Settled (ledger : Ledger δ) : Prop where
  coherent : ledger.Coherent
  each : ledger.Each Prunable.Settled

variable {ledger : Ledger δ}

theorem get?_prune (keep : String → Bool) (device : String) :
    (ledger.prune keep).devices.get? device =
      (ledger.devices.get? device).map (Prunable.prune keep) :=
  Keyed.get?_map ..

theorem owners_prune (keep : String → Bool) (id : String) :
    (ledger.prune keep).owners.get? id = if keep id then ledger.owners.get? id else none := by
  refine (Keyed.get?_filter ..).trans ?_
  cases ledger.owners.get? id with
  | none => simp
  | some device => exact Option.filter_some

theorem prune_prune (first second : String → Bool) :
    (ledger.prune first).prune second = ledger.prune fun id => first id && second id := by
  refine ext_get? (fun device => ?_) fun id => ?_
  · simp only [get?_prune, Option.map_map]
    exact congrArg (Option.map · _) (funext (Prunable.prune_prune first second))
  · simp only [owners_prune]
    cases first id with
    | true => simp
    | false => simp

theorem Settled.prune_all (settled : ledger.Settled) : ledger.prune (fun _ => true) = ledger := by
  refine ext_get? (fun device => ?_) fun id => by simp [owners_prune]
  rw [get?_prune]
  cases known : ledger.devices.get? device with
  | none => rfl
  | some books => exact congrArg some (Prunable.prune_all books (settled.each device books known))

/-- On a device that holds no name of those left out, everything stays. -/
theorem Settled.prune_books (settled : ledger.Settled) {keep : String → Bool} {device : String}
    {books : δ} (known : ledger.devices.get? device = some books)
    (kept : ∀ live ∈ Booked.allocations books, keep live.id = true) :
    Prunable.prune keep books = books := by
  have each := settled.each device books known
  exact (Prunable.prune_congr keep _ books each kept).trans (Prunable.prune_all books each)

variable [LawfulBooked δ]

theorem Settled.release_eq_prune (settled : ledger.Settled) (id : String) :
    (ledger.release id).2 = ledger.prune (· ≠ id) := by
  have coherent := settled.coherent
  have elsewhere (device : String) (books : δ) (known : ledger.devices.get? device = some books)
      (absent : id ∉ (ledger.liveOn device).map (·.id)) :
      Prunable.prune (fun name => decide (name ≠ id)) books = books := by
    rw [liveOn_eq known] at absent
    refine settled.prune_books known fun live held => ?_
    exact decide_eq_true fun same => absent (same ▸ List.mem_map_of_mem held)
  refine ext_get? (fun device => ?_) fun name => ?_
  · rw [get?_prune]
    rcases release_cases coherent id with
      ⟨unused, released⟩ | ⟨owner, books, taken, left, found, known, removed, released⟩
    · rw [released]
      cases known : ledger.devices.get? device with
      | none => rfl
      | some books =>
          exact congrArg some (elsewhere device books known (coherent.fresh unused device)).symm
    · rw [released, Keyed.get?_insert]
      by_cases here : device = owner
      · have each := settled.each owner books known
        have pruned := Prunable.remove?_eq books id taken left each removed
        rw [if_pos here, here, known, pruned]
        rfl
      · rw [if_neg here]
        cases other : ledger.devices.get? device with
        | none => rfl
        | some others =>
            refine congrArg some (elsewhere device others other fun member => here ?_).symm
            exact coherent.device_unique member ((coherent.indexed id owner).mp found)
  · rw [owners_release coherent, owners_prune]
    by_cases same : name = id
    · simp [same]
    · simp [same]

theorem Settled.expire_eq_prune (settled : ledger.Settled) (now : Timestamp) :
    (ledger.expire now).2 = ledger.prune (· ∉ (ledger.expire now).1.map (·.id)) := by
  have coherent := settled.coherent
  refine ext_get? (fun device => ?_) fun id => ?_
  · rw [get?_prune]
    refine (Keyed.get?_map ..).trans ?_
    cases known : ledger.devices.get? device with
    | none => rfl
    | some books =>
        have each := settled.each device books known
        refine congrArg some ((Prunable.expire_eq books now each).trans ?_)
        -- What expires on a device has expired on the ledger, and no other device has its name.
        refine Prunable.prune_congr _ _ books each fun live held => ?_
        have distinct := coherent.distinct device
        have onLedger : live.id ∈ (ledger.expire now).1.map (·.id) ↔ live.isExpiredAt now = true :=
          id_mem_expire_of_live coherent (liveOn_eq known ▸ held)
        rw [liveOn_eq known] at distinct
        rw [decide_eq_decide, onLedger, (LawfulBooked.expire_eq books now distinct).1,
          id_mem_filter distinct held]
  · rw [get?_owners_expire, owners_prune]
    by_cases expired : id ∈ (ledger.expire now).1.map (·.id)
    · rw [if_pos expired, if_neg (by simpa using expired)]
    · rw [if_neg expired, if_pos (by simpa using expired)]

theorem Settled.release (settled : ledger.Settled) (id : String) :
    (ledger.release id).2.Settled := by
  refine ⟨settled.coherent.release id, ?_⟩
  refine settled.each.release settled.coherent id fun books taken left each removed => ?_
  exact Prunable.remove?_eq books id taken left each removed ▸ Prunable.settled_prune _ books each

theorem Settled.expire (settled : ledger.Settled) (now : Timestamp) :
    (ledger.expire now).2.Settled := by
  refine ⟨settled.coherent.expire now, settled.each.expire now fun books each => ?_⟩
  exact Prunable.expire_eq books now each ▸ Prunable.settled_prune _ books each

/-- Whatever the order of some releases, they leave what bears none of their names. -/
theorem Settled.foldl_release_eq_prune (settled : ledger.Settled) (ids : List String) :
    ids.foldl (fun left id => (left.release id).2) ledger = ledger.prune (· ∉ ids) := by
  induction ids generalizing ledger with
  | nil =>
      rw [not_mem_nil_eq]
      exact settled.prune_all.symm
  | cons id rest ih =>
      rw [List.foldl_cons, ih (settled.release id), settled.release_eq_prune, prune_prune,
        not_mem_cons_eq]

end Ledger

/-- What keeps its allocations on a ledger, and takes them off that ledger and nothing else. -/
class LedgerKeeper (κ : Type) (δ : outParam Type) [Booked δ] where
  ledger : κ → Ledger δ
  withLedger : κ → Ledger δ → κ
  release : κ → String → Outcome GpuAllocation × κ
  expire : κ → Timestamp → List GpuAllocation × κ
  ledger_withLedger : ∀ keeper other, ledger (withLedger keeper other) = other
  withLedger_ledger : ∀ keeper, withLedger keeper (ledger keeper) = keeper
  withLedger_withLedger : ∀ keeper other another,
    withLedger (withLedger keeper other) another = withLedger keeper another
  release_eq : ∀ keeper id, release keeper id =
    (((ledger keeper).release id).1, withLedger keeper ((ledger keeper).release id).2)
  expire_eq : ∀ keeper now, expire keeper now =
    (((ledger keeper).expire now).1, withLedger keeper ((ledger keeper).expire now).2)

instance : LedgerKeeper FractionalAllocator SharePool where
  ledger := FractionalAllocator.ledger
  withLedger allocator ledger := { allocator with ledger }
  release := FractionalAllocator.release
  expire := FractionalAllocator.expire
  ledger_withLedger _ _ := rfl
  withLedger_ledger _ := rfl
  withLedger_withLedger _ _ _ := rfl
  release_eq _ _ := rfl
  expire_eq _ _ := rfl

instance : LedgerKeeper PartitionAllocator PartitionedDevice where
  ledger := PartitionAllocator.ledger
  withLedger allocator ledger := { allocator with ledger }
  release := PartitionAllocator.release
  expire := PartitionAllocator.expire
  ledger_withLedger _ _ := rfl
  withLedger_ledger _ := rfl
  withLedger_withLedger _ _ _ := rfl
  release_eq _ _ := rfl
  expire_eq _ _ := rfl

instance : LedgerKeeper TimeSlicingScheduler SlicedDevice where
  ledger := TimeSlicingScheduler.ledger
  withLedger scheduler ledger := { scheduler with ledger }
  release := TimeSlicingScheduler.release
  expire := TimeSlicingScheduler.expire
  ledger_withLedger _ _ := rfl
  withLedger_ledger _ := rfl
  withLedger_withLedger _ _ _ := rfl
  release_eq _ _ := rfl
  expire_eq _ _ := rfl

namespace LedgerKeeper

variable {κ δ : Type} [Booked δ] [LedgerKeeper κ δ]

theorem foldl_release_eq (keeper : κ) (ids : List String) :
    ids.foldl (fun left id => (release left id).2) keeper =
      withLedger keeper (ids.foldl (fun left id => (left.release id).2) (ledger keeper)) := by
  induction ids generalizing keeper with
  | nil => exact (withLedger_ledger keeper).symm
  | cons id rest ih =>
      rw [List.foldl_cons, List.foldl_cons, ih, release_eq, ledger_withLedger,
        withLedger_withLedger]

end LedgerKeeper

section Reached

theorem FractionalAllocator.Sound.settled {allocator : FractionalAllocator}
    (sound : allocator.Sound) : allocator.ledger.Settled := by
  refine ⟨sound.coherent, fun device pool known => ?_⟩
  have distinct := sound.coherent.distinct device
  rw [Ledger.liveOn_eq known] at distinct
  exact distinct

theorem PartitionAllocator.Sound.settled {allocator : PartitionAllocator}
    (sound : allocator.Sound) : allocator.ledger.Settled :=
  ⟨sound.coherent, sound.accounted⟩

theorem TimeSlicingScheduler.Sound.settled {scheduler : TimeSlicingScheduler}
    (sound : scheduler.Sound) : scheduler.ledger.Settled :=
  ⟨sound.coherent, sound.inTurn⟩

end Reached

end GpuSharing
