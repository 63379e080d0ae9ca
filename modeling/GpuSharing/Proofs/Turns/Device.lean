import GpuSharing.Proofs.Ledger
import GpuSharing.Turns.Device

/-!
# Who takes turns on a device

The queue and the turn are kept beside the list of workloads, and so is the memory in
use. Every change of a device keeps the three in step: nobody is forgotten, nobody
waits twice, and no memory is lost.
-/

set_option autoImplicit false

namespace GpuSharing

namespace SlicedDevice

/-- Every workload either waits or has the turn, as its status says, and the memory in
use is that of the workloads together. -/
structure InTurn (device : SlicedDevice) : Prop where
  distinct : (device.workloads.map (·.id)).Nodup
  everyone : (device.active.toList ++ device.queue).Perm (device.workloads.map (·.id))
  status_eq : ∀ live ∈ device.workloads,
    live.status = if some live.id = device.active then .active else .pending
  memory_exact : device.memoryUsedMib.toNat = totalMemory device.workloads

theorem inTurn_empty (memoryTotalMib : UInt64) (lastSwitch : Instant) :
    InTurn { memoryTotalMib, lastSwitch } where
  distinct := List.nodup_nil
  everyone := .refl []
  status_eq _ member := by cases member
  memory_exact := rfl

theorem InTurn.resize {device : SlicedDevice} (inTurn : device.InTurn) (memoryTotalMib : UInt64) :
    InTurn { device with memoryTotalMib } :=
  ⟨inTurn.distinct, inTurn.everyone, inTurn.status_eq, inTurn.memory_exact⟩

theorem InTurn.memory_le {device : SlicedDevice} (inTurn : device.InTurn) {live : GpuAllocation}
    (member : live ∈ device.workloads) : live.memoryMib.toNat ≤ device.memoryUsedMib.toNat := by
  rw [inTurn.memory_exact]
  exact quantity_le_totalOf (·.memoryMib.toNat) member

theorem InTurn.active_mem {device : SlicedDevice} (inTurn : device.InTurn) {id : String}
    (active : device.active = some id) : id ∈ device.workloads.map (·.id) :=
  inTurn.everyone.mem_iff.mp (by simp [active])

theorem InTurn.enqueue {device : SlicedDevice} (inTurn : device.InTurn) {workload : GpuAllocation}
    (fresh : workload.id ∉ device.workloads.map (·.id)) (status : workload.status = .pending)
    (fits : device.memoryUsedMib.toNat + workload.memoryMib.toNat < UInt64.size) :
    (device.enqueue workload).InTurn := by
  refine ⟨nodup_append_singleton inTurn.distinct fresh, ?_, ?_, ?_⟩
  · rw [SlicedDevice.enqueue, List.map_append, ← List.append_assoc]
    exact inTurn.everyone.append_right [workload.id]
  · intro live member
    rcases List.mem_append.mp member with old | new
    · exact inTurn.status_eq live old
    · have waits : some live.id ≠ device.active := fun active => by
        rw [List.mem_singleton.mp new] at active
        exact fresh (inTurn.active_mem active.symm)
      rw [List.mem_singleton.mp new, status, if_neg (List.mem_singleton.mp new ▸ waits)]
  · rw [SlicedDevice.enqueue, UInt64.toNat_add, Nat.mod_eq_of_lt fits, inTurn.memory_exact]
    simp [totalMemory]

section Rotation

section Statuses

variable (workloads : List GpuAllocation) (id : Option String) (status : AllocationStatus)

theorem map_setStatus {α : Type} (view : GpuAllocation → α)
    (unaffected : ∀ workload status, view { workload with status } = view workload) :
    (setStatus workloads id status).map view = workloads.map view := by
  rw [setStatus, List.map_map]
  refine List.map_congr_left fun workload _ => ?_
  by_cases named : some workload.id = id
  · simp [named, unaffected]
  · simp [named]

theorem exists_of_mem_setStatus {live : GpuAllocation}
    (member : live ∈ setStatus workloads id status) :
    ∃ earlier ∈ workloads, live.id = earlier.id ∧
      live.status = if some earlier.id = id then status else earlier.status := by
  obtain ⟨earlier, stored, rfl⟩ := List.mem_map.mp member
  by_cases named : some earlier.id = id
  · exact ⟨earlier, stored, by rw [if_pos named], by rw [if_pos named, if_pos named]⟩
  · exact ⟨earlier, stored, by rw [if_neg named], by rw [if_neg named, if_neg named]⟩

end Statuses

/-- After a rotation, whoever has the turn is active and all others are pending. -/
theorem status_rotate {device : SlicedDevice} (inTurn : device.InTurn) (now : Instant)
    {live : GpuAllocation} (member : live ∈ (device.rotate now).2.workloads) :
    live.status = if some live.id = (device.rotate now).2.active then .active else .pending := by
  -- A rotation sets statuses twice: the one who had the turn rests before the next one starts.
  obtain ⟨rested, restedMember, name, status⟩ := exists_of_mem_setStatus _ _ _ member
  obtain ⟨earlier, stored, restedName, restedStatus⟩ := exists_of_mem_setStatus _ _ _ restedMember
  have pending : rested.status = .pending := by
    rw [restedStatus, inTurn.status_eq earlier stored]
    by_cases turn : some earlier.id = device.active
    · rw [if_pos turn]
    · rw [if_neg turn, if_neg turn]
  rw [status, name, pending]
  rfl

/-- A rotation changes nothing of a workload but its status. -/
theorem map_rotate {α : Type} (device : SlicedDevice) (now : Instant) (view : GpuAllocation → α)
    (unaffected : ∀ workload status, view { workload with status } = view workload) :
    (device.rotate now).2.workloads.map view = device.workloads.map view :=
  (map_setStatus _ _ _ view unaffected).trans (map_setStatus _ _ _ view unaffected)

theorem InTurn.rotate {device : SlicedDevice} (inTurn : device.InTurn) (now : Instant) :
    (device.rotate now).2.InTurn := by
  have names := device.map_rotate now (·.id) fun _ _ => rfl
  refine ⟨names ▸ inTurn.distinct, ?_, fun live member => status_rotate inTurn now member, ?_⟩
  · rw [names]
    refine .trans ?_ inTurn.everyone
    have passed (waiting : List String) : waiting.head?.toList ++ waiting.drop 1 = waiting := by
      cases waiting with
      | nil => rfl
      | cons first rest => rfl
    simp only [SlicedDevice.rotate, passed]
    exact List.perm_append_comm
  · rw [totalMemory, totalOf, device.map_rotate now (·.memoryMib.toNat) fun _ _ => rfl]
    exact inTurn.memory_exact

end Rotation

section Removals

theorem remove?_eq_some {device left : SlicedDevice} {id : String} {taken : GpuAllocation}
    (removed : device.remove? id = some (taken, left)) :
    takeAllocation? id device.workloads = some (taken, left.workloads) ∧
      left.queue = device.queue.filter (· ≠ id) ∧
      left.active = (if device.active = some id then none else device.active) ∧
      left.memoryUsedMib = monus device.memoryUsedMib taken.memoryMib := by
  unfold remove? at removed
  cases found : takeAllocation? id device.workloads with
  | none => simp [found] at removed
  | some result =>
      rw [found] at removed
      cases removed
      exact ⟨rfl, rfl, rfl, rfl⟩

theorem InTurn.remove {device left : SlicedDevice} {id : String} {taken : GpuAllocation}
    (inTurn : device.InTurn) (removed : device.remove? id = some (taken, left)) :
    left.InTurn := by
  obtain ⟨found, queue, active, memory⟩ := remove?_eq_some removed
  have kept := takeAllocation?_left inTurn.distinct found
  refine ⟨kept ▸ nodup_filter _ inTurn.distinct, ?_, ?_, ?_⟩
  · have turn : left.active.toList = device.active.toList.filter (· ≠ id) := by
      rw [active, ← filter_holder_ne, Option.toList_filter]
    have names : left.workloads.map (·.id) = (device.workloads.map (·.id)).filter (· ≠ id) := by
      rw [kept]
      exact filter_names (· ≠ id)
    rw [turn, queue, ← List.filter_append, names]
    exact inTurn.everyone.filter _
  · intro live member
    rw [kept, List.mem_filter] at member
    have other : live.id ≠ id := by simpa using member.2
    rw [inTurn.status_eq live member.1, active]
    by_cases turn : device.active = some id
    · simp [turn, other]
    · simp [turn]
  · have total := totalOf_takeAllocation? (·.memoryMib.toNat) found
    rw [memory, toNat_monus, inTurn.memory_exact]
    simp only [totalMemory] at total ⊢
    omega

theorem InTurn.removeAll {device : SlicedDevice} (inTurn : device.InTurn) (ids : List String) :
    (device.removeAll ids).2.InTurn := by
  induction ids generalizing device with
  | nil => exact inTurn
  | cons id rest ih =>
      unfold SlicedDevice.removeAll
      cases removed : device.remove? id with
      | none => exact ih inTurn
      | some result => exact ih (inTurn.remove removed)

/-- Removing workloads by their names takes off these and leaves all others. -/
theorem removeAll_names {device : SlicedDevice} {dropped : List GpuAllocation}
    (distinct : (device.workloads.map (·.id)).Nodup) (once : (dropped.map (·.id)).Nodup)
    (held : ∀ live ∈ dropped, live ∈ device.workloads) :
    (device.removeAll (dropped.map (·.id))).1 = dropped ∧
      (device.removeAll (dropped.map (·.id))).2.workloads =
        device.workloads.filter fun live => live.id ∉ dropped.map (·.id) := by
  induction dropped generalizing device with
  | nil => exact ⟨rfl, (List.filter_eq_self.mpr fun _ _ => by simp).symm⟩
  | cons first rest ih =>
      rw [List.map_cons, List.nodup_cons] at once
      obtain ⟨firstOnce, restOnce⟩ := once
      have firstHeld := held first List.mem_cons_self
      cases removed : device.remove? first.id with
      | none =>
          have absent : takeAllocation? first.id device.workloads = none := by
            simpa [remove?] using removed
          exact absurd (List.mem_map_of_mem firstHeld) (takeAllocation?_eq_none.mp absent)
      | some result =>
          obtain ⟨taken, left⟩ := result
          obtain ⟨found, _⟩ := remove?_eq_some removed
          have kept := takeAllocation?_left distinct found
          have same : taken = first := eq_of_id_eq distinct (mem_of_takeAllocation? found) firstHeld
            (takeAllocation?_eq_some found).1
          have restHeld (live : GpuAllocation) (member : live ∈ rest) : live ∈ left.workloads := by
            rw [kept, List.mem_filter]
            refine ⟨held live (List.mem_cons_of_mem _ member), ?_⟩
            simpa using fun named : live.id = first.id =>
              firstOnce (named ▸ List.mem_map_of_mem member)
          obtain ⟨removedRest, leftRest⟩ := ih (kept ▸ nodup_filter _ distinct) restOnce restHeld
          refine ⟨?_, ?_⟩
          · simp only [List.map_cons, SlicedDevice.removeAll, removed, removedRest, same]
          · simp only [List.map_cons, SlicedDevice.removeAll, removed, leftRest, kept,
              List.filter_filter, List.mem_cons, not_or, Bool.decide_and]
            exact List.filter_congr fun live _ => Bool.and_comm _ _

theorem expire_eq {device : SlicedDevice} (distinct : (device.workloads.map (·.id)).Nodup)
    (now : Timestamp) :
    (device.expire now).1 = device.workloads.filter (·.isExpiredAt now) ∧
      (device.expire now).2.workloads =
        device.workloads.filter fun live => !live.isExpiredAt now := by
  obtain ⟨dropped, left⟩ := removeAll_names distinct
    (nodup_filter (·.isExpiredAt now) distinct) fun live member => (List.mem_filter.mp member).1
  refine ⟨dropped, left.trans (List.filter_congr fun live member => ?_)⟩
  simp only [id_mem_filter distinct member, decide_not, Bool.decide_eq_true]

theorem memoryTotal_remove {device left : SlicedDevice} {id : String} {taken : GpuAllocation}
    (removed : device.remove? id = some (taken, left)) :
    left.memoryTotalMib = device.memoryTotalMib := by
  obtain ⟨_, _, same⟩ := Option.map_eq_some_iff.mp removed
  exact (Prod.mk.inj same).2 ▸ rfl

theorem memoryTotal_removeAll (device : SlicedDevice) (ids : List String) :
    (device.removeAll ids).2.memoryTotalMib = device.memoryTotalMib := by
  induction ids generalizing device with
  | nil => rfl
  | cons id rest ih =>
      unfold removeAll
      cases removed : device.remove? id with
      | none => exact ih device
      | some result => exact (ih result.2).trans (memoryTotal_remove removed)

instance : LawfulBooked SlicedDevice where
  remove?_eq device id := by
    change (device.remove? id).map (fun result => (result.1, result.2.workloads)) =
      takeAllocation? id device.workloads
    simp [remove?, Function.comp_def]
  expire_eq _ now distinct := expire_eq distinct now

end Removals

end SlicedDevice

end GpuSharing
