import GpuSharing.Proofs.Pruning

/-!
# Sweeping what has expired

A sweep takes everything that has expired off the books at once. It leaves what the releases
of the same allocations leave, one by one and in any order, and a second sweep at the same
time or an earlier one finds nothing.
-/

set_option autoImplicit false

namespace GpuSharing

namespace GpuAllocation

variable {live : GpuAllocation} {now : Timestamp}

theorem isExpiredAt_iff :
    live.isExpiredAt now = true ↔ ∃ time, live.expiresAt = some time ∧ time ≤ now := by
  simp [isExpiredAt, Option.any_eq_true]

theorem isExpiredAt_mono {earlier : Timestamp} (before : earlier ≤ now)
    (past : live.isExpiredAt earlier = true) : live.isExpiredAt now = true := by
  obtain ⟨time, expires, reached⟩ := isExpiredAt_iff.mp past
  exact isExpiredAt_iff.mpr ⟨time, expires, Timestamp.le_trans reached before⟩

end GpuAllocation

namespace Ledger

variable {δ : Type} [Booked δ] [LawfulBooked δ] {ledger : Ledger δ}

theorem nodup_expire (coherent : ledger.Coherent) (now : Timestamp) :
    ((ledger.expire now).1.map (·.id)).Nodup := by
  have dropped (place : String) (books : δ) (known : ledger.devices.get? place = some books)
      (id : String) (member : id ∈ (Booked.expire books now).1.map (·.id)) :
      id ∈ (ledger.liveOn place).map (·.id) := by
    have distinct := coherent.distinct place
    rw [liveOn_eq known] at distinct ⊢
    rw [(LawfulBooked.expire_eq books now distinct).1] at member
    exact (List.filter_sublist.map _).subset member
  rw [Ledger.expire, List.map_map]
  change ((ledger.devices.values.flatMap _).map fun live : GpuAllocation => live.id).Nodup
  rw [List.map_flatMap, List.nodup_flatMap]
  constructor
  · intro books stored
    obtain ⟨place, known⟩ := Keyed.mem_values.mp stored
    have distinct := coherent.distinct place
    rw [liveOn_eq known] at distinct
    rw [(LawfulBooked.expire_eq books now distinct).1]
    exact nodup_filter _ distinct
  · refine List.pairwise_map.mpr (ledger.devices.ascending.imp_of_mem ?_)
    intro first second firstStored secondStored less id inFirst inSecond
    have one := coherent.device_unique
      (dropped first.1 first.2 (Keyed.mem_entries.mp firstStored) id inFirst)
      (dropped second.1 second.2 (Keyed.mem_entries.mp secondStored) id inSecond)
    exact String.lt_irrefl second.1 (one ▸ less)

/-- Where nothing has expired, a sweep does nothing. -/
theorem Settled.expire_eq_self [Prunable δ] (settled : ledger.Settled) {now : Timestamp}
    (fresh : ∀ device, ∀ live ∈ ledger.liveOn device, live.isExpiredAt now = false) :
    ledger.expire now = ([], ledger) := by
  have none : (ledger.expire now).1 = [] := by
    refine List.eq_nil_iff_forall_not_mem.mpr fun allocation member => ?_
    obtain ⟨device, live, held, past, _⟩ := (mem_expire settled.coherent).mp member
    rw [fresh device live held] at past
    cases past
  have same := settled.expire_eq_prune now
  rw [none, List.map_nil, not_mem_nil_eq, settled.prune_all] at same
  exact Prod.ext none same

end Ledger

open LedgerKeeper in
/-- A sweep reports each expired allocation once, leaves what the releases of those leave in
any order, and leaves nothing for a sweep at the same time or an earlier one. -/
structure SweepsAsReleases {κ δ : Type} [Booked δ] [LedgerKeeper κ δ] (keeper : κ)
    (now : Timestamp) : Prop where
  reported : ∀ allocation, allocation ∈ (expire keeper now).1 ↔
    ∃ device, ∃ live ∈ (ledger keeper).liveOn device,
      (∃ time, live.expiresAt = some time ∧ time ≤ now) ∧
        allocation = { live with status := .expired }
  once : ((expire keeper now).1.map (·.id)).Nodup
  released : ∀ ids : List String, ids.Perm ((expire keeper now).1.map (·.id)) →
    ids.foldl (fun left id => (release left id).2) keeper = (expire keeper now).2
  none_left : ∀ device, ∀ live ∈ (ledger (expire keeper now).2).liveOn device,
    ∀ time, live.expiresAt = some time → now < time
  again : ∀ earlier, earlier ≤ now →
    expire (expire keeper now).2 earlier = ([], (expire keeper now).2)

open LedgerKeeper in
theorem Ledger.Settled.sweepsAsReleases {κ δ : Type} [Booked δ] [LawfulBooked δ] [Prunable δ]
    [LedgerKeeper κ δ] {keeper : κ} (settled : (ledger keeper).Settled) (now : Timestamp) :
    SweepsAsReleases keeper now := by
  have coherent := settled.coherent
  have fresh (device : String) (live : GpuAllocation)
      (held : live ∈ ((ledger keeper).expire now).2.liveOn device) :
      live.isExpiredAt now = false := by
    rw [liveOn_expire coherent] at held
    simpa using (List.mem_filter.mp held).2
  refine ⟨?_, ?_, ?_, ?_, ?_⟩
  · intro allocation
    rw [expire_eq, mem_expire coherent]
    simp only [GpuAllocation.isExpiredAt_iff, eq_comm (a := allocation)]
  · rw [expire_eq]
    exact nodup_expire coherent now
  · intro ids same
    rw [expire_eq] at same ⊢
    rw [foldl_release_eq, settled.foldl_release_eq_prune, settled.expire_eq_prune]
    simp only [same.mem_iff]
  · intro device live held time expiresAt
    rw [expire_eq, ledger_withLedger] at held
    refine Timestamp.not_le.mp fun reached => ?_
    have past := GpuAllocation.isExpiredAt_iff.mpr ⟨time, expiresAt, reached⟩
    rw [fresh device live held] at past
    cases past
  · intro earlier before
    have none : ((ledger keeper).expire now).2.expire earlier =
        ([], ((ledger keeper).expire now).2) := by
      refine (settled.expire now).expire_eq_self fun device live held => ?_
      cases past : live.isExpiredAt earlier with
      | false => rfl
      | true =>
          have later := GpuAllocation.isExpiredAt_mono before past
          rw [fresh device live held] at later
          cases later
    rw [expire_eq keeper, expire_eq, ledger_withLedger, none, withLedger_withLedger]

/-- In every state that an allocator of any kind reaches, sweeping what has expired is releasing
it. -/
theorem run_sweeps_as_releases :
    (∀ policy operations now,
      SweepsAsReleases (({ policy } : FractionalAllocator).run operations) now) ∧
    (∀ policy operations now,
      SweepsAsReleases (({ policy } : PartitionAllocator).run operations) now) ∧
    ∀ config policy operations now,
      SweepsAsReleases (({ config, policy } : TimeSlicingScheduler).run operations) now := by
  refine ⟨?_, ?_, ?_⟩
  · intro policy operations now
    have sound := (FractionalAllocator.sound_new policy).run operations
    exact Ledger.Settled.sweepsAsReleases sound.settled now
  · intro policy operations now
    have sound := (PartitionAllocator.sound_new policy).run operations
    exact Ledger.Settled.sweepsAsReleases sound.settled now
  · intro config policy operations now
    have sound := (TimeSlicingScheduler.sound_new config policy).run operations
    exact Ledger.Settled.sweepsAsReleases sound.settled now

end GpuSharing
