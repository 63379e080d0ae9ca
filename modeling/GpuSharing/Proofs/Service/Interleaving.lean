import GpuSharing.Proofs.Service.Sessions

/-!
# What is done while a session starts

A granted allocation can be seen before it holds the session of its device. Until its request
is completed the node can be used in every way, and the allocation may be gone by then, or its
name may have been given to somebody else. The sessions count right again exactly if the
completion opens a session that is still owed, or takes back what still owes one.
-/

set_option autoImplicit false

namespace GpuSharing.AllocationService

variable {service : AllocationService} {allocation : GpuAllocation}

section Owing

/-- At some point of a run nothing that needs the session of a device lives on it. -/
def Emptied (service : AllocationService) (operations : List Operation) (device : String) :
    Prop :=
  ∃ earlier, earlier <+: operations ∧ (service.run earlier).isolated device = 0

theorem emptied_nil {device : String} : service.Emptied [] device ↔ service.isolated device = 0 := by
  constructor
  · rintro ⟨earlier, first, empty⟩
    rw [List.prefix_nil.mp first] at empty
    exact empty
  · intro empty
    exact ⟨[], List.prefix_rfl, empty⟩

theorem emptied_cons {operation : Operation} {rest : List Operation} {device : String} :
    service.Emptied (operation :: rest) device ↔
      service.isolated device = 0 ∨ (service.perform operation).Emptied rest device := by
  constructor
  · rintro ⟨earlier, first, empty⟩
    rcases List.prefix_cons_iff.mp first with rfl | ⟨others, rfl, before⟩
    · exact .inl empty
    · exact .inr ⟨others, before, empty⟩
  · rintro (empty | ⟨earlier, before, empty⟩)
    · exact ⟨[], List.nil_prefix, empty⟩
    · exact ⟨operation :: earlier, List.cons_prefix_cons.mpr ⟨rfl, before⟩, empty⟩

theorem holds_le_isolated (busy : service.isolated allocation.device ≠ 0) (device : String) :
    holds allocation device ≤ service.isolated device := by
  unfold holds
  split
  · rename_i here
    rw [← here.2]
    exact Nat.pos_of_ne_zero busy
  · exact Nat.zero_le _

/-- On a device without a holder nothing is owed. -/
theorem SessionsHeldBut.settled (held : service.SessionsHeldBut (holds allocation))
    (empty : service.isolated allocation.device = 0) : service.SessionsHeld := by
  have same : (fun device => service.isolated device - holds allocation device) =
      service.isolated := by
    funext device
    unfold holds
    split
    · rename_i here
      rw [← here.2, empty]
    · rfl
  unfold SessionsHeldBut at held
  rw [same] at held
  exact held

/-- The session of an allocation stays owed until its device is without a holder; from then on
the sessions are right, and opening another one is one too many. -/
theorem SessionsHeldBut.run (owned : service.Owned)
    (held : service.SessionsHeldBut (holds allocation)) (operations : List Operation) :
    service.Emptied operations allocation.device ∧ (service.run operations).SessionsHeld ∨
    ¬service.Emptied operations allocation.device ∧
      (service.run operations).isolated allocation.device ≠ 0 ∧
      (service.run operations).SessionsHeldBut (holds allocation) := by
  induction operations generalizing service with
  | nil =>
      rw [emptied_nil]
      by_cases empty : service.isolated allocation.device = 0
      · exact .inl ⟨empty, held.settled empty⟩
      · exact .inr ⟨empty, empty, held⟩
  | cons operation rest ih =>
      rw [emptied_cons]
      by_cases empty : service.isolated allocation.device = 0
      · exact .inl ⟨.inl empty, (held.settled empty).run owned (operation :: rest)⟩
      · rw [or_iff_right empty]
        exact ih (owned.perform operation)
          (held.perform owned (holds_le_isolated empty) operation)

/-- What is owed after a run: nothing, or still the session of the allocation. -/
theorem SessionsHeldBut.owed_run (owned : service.Owned)
    (held : service.SessionsHeldBut (holds allocation)) (operations : List Operation) :
    ∃ owed, (service.run operations).SessionsHeldBut owed ∧
      (∀ device, owed device ≤ (service.run operations).isolated device) ∧
      (service.Emptied operations allocation.device ∧ owed = (fun _ => 0) ∨
        ¬service.Emptied operations allocation.device ∧ owed = holds allocation) := by
  rcases held.run owned operations with ⟨emptied, right⟩ | ⟨busy, present, owing⟩
  · exact ⟨_, sessionsHeld_iff.mp right, fun _ => Nat.zero_le _, .inl ⟨emptied, rfl⟩⟩
  · exact ⟨_, owing, holds_le_isolated present, .inr ⟨busy, rfl⟩⟩

theorem holds_ne_none (process : allocation.isolation = .process) :
    holds allocation ≠ fun _ => 0 := by
  intro none
  have owes := congrFun none allocation.device
  simp [holds, process] at owes

theorem Grants.sessionsHeldBut {next : AllocationService} {device : String}
    {request : AllocationRequest} {kind : AllocatorKind} (held : service.SessionsHeld)
    (grants : service.Grants next device request kind allocation)
    (same : next.isolation = service.isolation) :
    next.SessionsHeldBut (holds allocation) := by
  have before : (fun device => next.isolated device - holds allocation device) =
      service.isolated := by
    funext device
    rw [grants.adds.isolated_eq, Nat.add_sub_cancel]
  unfold SessionsHeldBut
  rw [before]
  exact SessionsHeldBy.congr held same

end Owing

section Completion

variable {kind : AllocatorKind}

/-- How many holders of the session of a device go with a name. -/
def isolatedAs (service : AllocationService) (kind : AllocatorKind) (id device : String) : Nat :=
  ((service.liveIn kind device).filter (·.id = id)).countP (·.isolation = .process)

theorem isolatedAs_of_live (owned : service.Owned) {place : String} {live : GpuAllocation}
    (member : live ∈ service.liveIn kind place) :
    service.isolatedAs kind live.id = holds live := by
  have located := owned.sound.located kind place live member
  funext device
  unfold isolatedAs holds
  by_cases here : device = place
  · subst here
    rw [filter_named (owned.sound.nodup kind device) member, List.countP_singleton]
    simp [located]
  · have absent : (service.liveIn kind device).filter (·.id = live.id) = [] := by
      refine List.filter_eq_nil_iff.mpr fun other there named => here ?_
      have same := owned.eq_of_id_eq there member (of_decide_eq_true named)
      rw [← owned.sound.located kind device other there, same, located]
    rw [absent, located]
    simp [Ne.symm here]

theorem isolatedAs_eq_zero_iff {id : String} :
    (service.isolatedAs kind id = fun _ => 0) ↔
      ∀ place, ∀ live ∈ service.liveIn kind place, live.id = id → live.isolation ≠ .process := by
  rw [funext_iff]
  refine forall_congr' fun place => ?_
  unfold isolatedAs
  simp [List.countP_eq_zero]

/-- A name stands for the owed holder exactly if it is live on its device and needs the
session. -/
theorem isolatedAs_eq_holds_iff (owned : service.Owned)
    (process : allocation.isolation = .process) :
    service.isolatedAs kind allocation.id = holds allocation ↔
      ∃ live ∈ service.liveIn kind allocation.device,
        live.id = allocation.id ∧ live.isolation = .process := by
  constructor
  · intro same
    have one : service.isolatedAs kind allocation.id allocation.device = 1 := by
      rw [same]
      simp [holds, process]
    obtain ⟨live, member, isolated⟩ := List.countP_pos_iff.mp (Nat.lt_of_lt_of_eq Nat.one_pos one.symm)
    obtain ⟨held, named⟩ := List.mem_filter.mp member
    exact ⟨live, held, of_decide_eq_true named, of_decide_eq_true isolated⟩
  · rintro ⟨live, member, named, isolated⟩
    rw [← named, isolatedAs_of_live owned member]
    funext device
    unfold holds
    rw [isolated, process, owned.sound.located kind _ live member]

theorem SessionsHeldBy.sessionsHeld_iff {holders : String → Nat}
    (held : service.SessionsHeldBy holders) :
    service.SessionsHeld ↔ holders = service.isolated := by
  constructor
  · intro balanced
    obtain ⟨sessions, present, counted⟩ := held
    obtain ⟨others, same, right⟩ := balanced
    rw [present, Option.some.injEq] at same
    subst same
    funext device
    rw [← counted.count_eq device, right.count_eq device]
  · rintro rfl
    exact held

/-- The node after a grant has been taken back. -/
def withdraw (service : AllocationService) (kind : AllocatorKind) (allocation : GpuAllocation) :
    AllocationService :=
  ((service.forget allocation.id kind).releaseFrom kind allocation.id).2.syncCount
    allocation.device

theorem isolation_withdraw (service : AllocationService) (kind : AllocatorKind)
    (allocation : GpuAllocation) :
    (service.withdraw kind allocation).isolation = service.isolation := by
  obtain ⟨owners, forgotten⟩ := service.forget_frame allocation.id kind
  obtain ⟨_, _, _, released⟩ :=
    ({ service with owners } : AllocationService).releaseFrom_frame kind allocation.id
  unfold withdraw
  rw [forgotten, released]
  rfl

theorem liveIn_withdraw (sound : service.Sound) (kind : AllocatorKind)
    (allocation : GpuAllocation) (other : AllocatorKind) (place : String) :
    (service.withdraw kind allocation).liveIn other place =
      if other = kind then (service.liveIn other place).filter (·.id ≠ allocation.id)
      else service.liveIn other place := by
  obtain ⟨owners, forgotten⟩ := service.forget_frame allocation.id kind
  have kept : ({ service with owners } : AllocationService).Sound := sound.congr rfl
  unfold withdraw
  rw [forgotten]
  exact liveIn_releaseFrom kept kind allocation.id other place

theorem isolated_of_withdrawn {after : AllocationService} {id : String}
    (left : ∀ other place, after.liveIn other place =
      if other = kind then (service.liveIn other place).filter (·.id ≠ id)
      else service.liveIn other place) (device : String) :
    after.isolated device + service.isolatedAs kind id device = service.isolated device := by
  have parts := List.countP_eq_countP_filter_add (service.liveIn kind device)
    (·.isolation = .process) (·.id ≠ id)
  unfold isolated isolatedAs
  simp only [list_eq, left, List.countP_append]
  cases kind with
  | fractional =>
      simp at parts ⊢
      omega
  | partitionAware =>
      simp at parts ⊢
      omega
  | timeSlicing =>
      simp at parts ⊢
      omega

/-- An opened session is right exactly if one more was owed. -/
theorem complete_eq_ok {owed : String → Nat} (held : service.SessionsHeldBut owed)
    (covered : ∀ device, owed device ≤ service.isolated device) {result : GpuAllocation}
    (completed : (service.complete kind allocation).1 = .ok result) :
    ((service.complete kind allocation).2.SessionsHeld ↔ owed = holds allocation) ∧
      (service.complete kind allocation).2.liveIn = service.liveIn := by
  rcases service.complete_cases kind allocation with
    ⟨isolation, opened, done⟩ | ⟨failure, isolation, _, undone⟩
  · rw [done]
    refine ⟨?_, rfl⟩
    rcases SessionsHeldBy.openSession held allocation with
      ⟨next, answer, more⟩ | ⟨_, _, answer, _⟩
    · obtain rfl := (Prod.mk.inj (opened.symm.trans answer)).2
      rw [more.sessionsHeld_iff, funext_iff, funext_iff]
      refine forall_congr' fun device => ?_
      have enough := covered device
      change service.isolated device - owed device + holds allocation device =
        service.isolated device ↔ _
      omega
    · cases opened.symm.trans answer
  · rw [undone] at completed
    cases completed

/-- A grant is taken back rightly exactly if what goes with its name is what was owed. -/
theorem complete_eq_error (sound : service.Sound) {owed : String → Nat}
    (held : service.SessionsHeldBut owed)
    (covered : ∀ device, owed device ≤ service.isolated device) {failure : Failure}
    (refused : (service.complete kind allocation).1 = .error failure) :
    ((service.complete kind allocation).2.SessionsHeld ↔
      service.isolatedAs kind allocation.id = owed) ∧
      ∀ other place, (service.complete kind allocation).2.liveIn other place =
        if other = kind then (service.liveIn other place).filter (·.id ≠ allocation.id)
        else service.liveIn other place := by
  rcases service.complete_cases kind allocation with
    ⟨isolation, _, done⟩ | ⟨_, isolation, failed, undone⟩
  · rw [done] at refused
    cases refused
  · have opened : ({ service with isolation } : AllocationService).Sound := sound.congr rfl
    have left := liveIn_withdraw opened kind allocation
    have kept := isolation_withdraw { service with isolation } kind allocation
    rw [undone]
    change (AllocationService.SessionsHeld (withdraw _ kind allocation) ↔ _) ∧ _
    refine ⟨?_, left⟩
    rcases SessionsHeldBy.openSession held allocation with
      ⟨_, answer, _⟩ | ⟨_, _, answer, same⟩
    · cases failed.symm.trans answer
    · obtain rfl := (Prod.mk.inj (failed.symm.trans answer)).2
      rw [(same.congr kept).sessionsHeld_iff, funext_iff, funext_iff]
      refine forall_congr' fun device => ?_
      have enough := covered device
      have parts : _ + service.isolatedAs kind allocation.id device = service.isolated device :=
        isolated_of_withdrawn left device
      omega

end Completion

/-- Whatever is done between a grant and its completion: a session that opens is right exactly
if its device was never without a holder in between, and nothing is lost. If it does not open,
whoever has the name by then is turned out, and the sessions are right exactly if that was the
holder that was still missing. -/
theorem run_completes_iff (setup : ServiceSetup) (backend : IsolationBackend)
    (operations : List Operation) {device : String} {request : AllocationRequest} {clock : Clock}
    {kind : AllocatorKind} {allocation : GpuAllocation} {granted : AllocationService}
    (process : request.isolation = .process)
    (grants : (({ setup with backend := some backend } : ServiceSetup).service.run
      operations).grant device request clock = (.ok (kind, allocation), granted))
    (amid : List Operation) :
    let held := granted.run amid
    let answer := held.complete kind allocation
    (∀ result, answer.1 = .ok result →
      (answer.2.SessionsHeld ↔ ¬granted.Emptied amid device) ∧ answer.2.liveIn = held.liveIn) ∧
    ∀ failure, answer.1 = .error failure →
      (¬granted.Emptied amid device →
        (answer.2.SessionsHeld ↔ ∃ live ∈ held.liveIn kind device,
          live.id = allocation.id ∧ live.isolation = .process)) ∧
      (granted.Emptied amid device →
        (answer.2.SessionsHeld ↔ ∀ place, ∀ live ∈ held.liveIn kind place,
          live.id = allocation.id → live.isolation ≠ .process)) ∧
      ∀ other place, answer.2.liveIn other place =
        if other = kind then (held.liveIn other place).filter (·.id ≠ allocation.id)
        else held.liveIn other place := by
  intro held answer
  have owned := (owned_new { setup with backend := some backend }).run operations
  have balanced := (sessionsHeld_new { setup with backend := some backend } rfl).run
    (owned_new _) operations
  rcases grant_cases owned.sound device request clock with
    ⟨_, refused⟩ | ⟨_, _, next, answered, sound, granting, _, same⟩
  · cases grants.symm.trans refused
  cases grants.symm.trans answered
  obtain rfl : allocation.device = device := granting.answers.device_eq
  have isolated : allocation.isolation = .process := granting.answers.isolation_eq.trans process
  have ready := owned.grant sound granting
  have waiting : held.Owned := ready.run amid
  obtain ⟨owed, owing, covered, debt⟩ :=
    (granting.sessionsHeldBut balanced same).owed_run ready amid
  constructor
  · intro result completed
    obtain ⟨settles, kept⟩ := complete_eq_ok owing covered completed
    refine ⟨settles.trans ?_, kept⟩
    rcases debt with ⟨emptied, rfl⟩ | ⟨busy, rfl⟩
    · exact iff_of_false (holds_ne_none isolated).symm (not_not_intro emptied)
    · exact iff_of_true rfl busy
  · intro failure refused
    obtain ⟨settles, left⟩ := complete_eq_error waiting.sound owing covered refused
    rcases debt with ⟨emptied, rfl⟩ | ⟨busy, rfl⟩
    · exact ⟨fun never => absurd emptied never,
        fun _ => settles.trans isolatedAs_eq_zero_iff, left⟩
    · exact ⟨fun _ => settles.trans (isolatedAs_eq_holds_iff waiting isolated),
        fun emptied => absurd emptied busy, left⟩

def answering (starts : Bool) : IsolationBackend :=
  { start := fun device =>
      if starts then .ok () else .error { error := .commandFailed "start" device }
    stop := fun _ => .ok ()
    health := fun _ => .ok true }

/-- Half of a device has been granted, and the session of the device is to be opened. -/
def grantedHalf (starts : Bool) : Outcome (AllocatorKind × GpuAllocation) × AllocationService :=
  (({ backend := some (answering starts) } : ServiceSetup).service.run
    [.refresh (reportOf ["card0"]) firstSecond]).grant "card0" (halfFor "a" .process) firstSecond

def waitingHalf : GpuAllocation :=
  .ofRequest "card0" (halfFor "a" .process) ⟨500⟩ .active firstSecond.wall

/-- A session is opened for an allocation that has been released, and stays. Where it does not
open, the next allocation of the name goes in place of the one that has been released. -/
theorem complete_releasedAmid :
    (grantedHalf true).1 = .ok (.fractional, waitingHalf) ∧
      (((grantedHalf true).2.run [.release "a"]).complete .fractional waitingHalf).2.list "card0" =
        [] ∧
      (((grantedHalf true).2.run [.release "a"]).complete .fractional
        waitingHalf).2.isolation.map (·.count "card0") = some 1 ∧
      (grantedHalf false).1 = .ok (.fractional, waitingHalf) ∧
      (((grantedHalf false).2.run [.release "a",
        .allocate "card0" (halfFor "a" .shared) nextSecond]).list "card0").map (·.id) = ["a"] ∧
      (((grantedHalf false).2.run [.release "a",
        .allocate "card0" (halfFor "a" .shared) nextSecond]).complete .fractional
          waitingHalf).2.list "card0" = [] := by
  decide +kernel

theorem unbalanced_releasedAmid :
    (halfFor "a" .process).isolation = .process ∧
      grantedHalf true = (.ok (.fractional, waitingHalf), (grantedHalf true).2) ∧
      ¬(((grantedHalf true).2.run [.release "a"]).complete .fractional
        waitingHalf).2.SessionsHeld := by
  have granted : grantedHalf true = (.ok (.fractional, waitingHalf), (grantedHalf true).2) := by
    have answer : (grantedHalf true).1 = .ok (.fractional, waitingHalf) := by decide +kernel
    rw [← answer]
  have completed : (((grantedHalf true).2.run [.release "a"]).complete .fractional
      waitingHalf).1 = .ok waitingHalf := by
    decide +kernel
  have empty : ((grantedHalf true).2.run [.release "a"]).isolated "card0" = 0 := by
    decide +kernel
  refine ⟨rfl, granted, fun balanced => ?_⟩
  have settles := ((run_completes_iff {} (answering true) _ rfl granted
    [.release "a"]).1 waitingHalf completed).1
  exact settles.mp balanced ⟨[.release "a"], List.prefix_rfl, empty⟩

end GpuSharing.AllocationService
