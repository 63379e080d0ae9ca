import GpuSharing.Proofs.Partition.Device

/-!
# Ownership in the partition-aware allocator

However the allocator is used, and however often its devices are divided anew, each
die has one holder at most, and a grant by dies takes the lowest that were free.
-/

set_option autoImplicit false

namespace GpuSharing

namespace PartitionAllocator

inductive Operation where
  | register (device : String) (memoryTotalMib : UInt64) (config : PartitionConfig)
  | allocate (device : String) (request : AllocationRequest) (now : Timestamp)
  | release (id : String)
  | expire (now : Timestamp)
  | select (strategy : SelectionStrategy) (request : AllocationRequest)

def perform (allocator : PartitionAllocator) : Operation → PartitionAllocator
  | .register device memoryTotalMib config =>
      (allocator.register device memoryTotalMib config).2
  | .allocate device request now => (allocator.allocate device request now).2
  | .release id => (allocator.release id).2
  | .expire now => (allocator.expire now).2
  | .select strategy request => (allocator.select strategy request).2

def run (allocator : PartitionAllocator) (operations : List Operation) : PartitionAllocator :=
  operations.foldl perform allocator

theorem check_eq_ok {allocator : PartitionAllocator} {device : String}
    {request : AllocationRequest} {books : PartitionedDevice} {share : Share} :
    allocator.check device request = .ok (books, share) ↔
      (∃ asked, allocator.policy.vet request = .ok asked) ∧
        allocator.ledger.owners.get? request.id = none ∧
        allocator.ledger.devices.get? device = some books ∧
        books.config.computeMode.shareOf request.fraction = .ok share ∧
        books.check device share request.memoryMib = .ok () := by
  unfold check Ledger.requireUnused Ledger.device
  cases known : allocator.ledger.devices.get? device with
  | none => simp [Outcome.bind_eq_ok, refuse]
  | some found =>
      simp only [Outcome.bind_eq_ok, require_eq_ok, Outcome.pure_eq_ok, Prod.mk.injEq,
        Except.ok.injEq, Option.some.injEq]
      constructor
      · rintro ⟨asked, vetted, _, unused, _, rfl, _, valid, _, fits, rfl, rfl⟩
        exact ⟨⟨asked, vetted⟩, unused, rfl, valid, fits⟩
      · rintro ⟨⟨asked, vetted⟩, unused, rfl, valid, fits⟩
        exact ⟨asked, vetted, (), unused, found, rfl, share, valid, (), fits, rfl, rfl⟩

/-- A request is turned down without a trace, or its dies are claimed and it is put on
the books. -/
theorem allocate_cases (allocator : PartitionAllocator) (device : String)
    (request : AllocationRequest) (now : Timestamp) :
    (∃ failure, allocator.allocate device request now = (.error failure, allocator)) ∨
    ∃ books share granted claimed, allocator.check device request = .ok (books, share) ∧
      books.claim? (.ofRequest device request share .active now) = some (granted, claimed) ∧
      allocator.allocate device request now =
        (.ok granted,
          { allocator with
            ledger := allocator.ledger.enter device
              { claimed with pool := claimed.pool.push granted } granted }) := by
  unfold allocate
  cases checked : allocator.check device request with
  | error failure => exact .inl ⟨failure, rfl⟩
  | ok result =>
      obtain ⟨books, share⟩ := result
      obtain ⟨_, _, _, _, fits⟩ := check_eq_ok.mp checked
      obtain ⟨granted, claimed, claim⟩ : ∃ granted claimed,
          books.claim? (.ofRequest device request share .active now) = some (granted, claimed) :=
        PartitionedDevice.claim?_of_check fits
      exact .inr ⟨books, share, granted, claimed, rfl, claim, by simp only [claim]⟩

/-- A device is added empty, keeps everything but its memory, or is divided anew while
nothing lives on it. -/
theorem register_cases (allocator : PartitionAllocator) (device : String)
    (memoryTotalMib : UInt64) (config : PartitionConfig) :
    (∃ failure, allocator.register device memoryTotalMib config = (.error failure, allocator)) ∨
    ∃ changed : PartitionedDevice, changed.config = config ∧
      changed.pool.allocations = allocator.ledger.liveOn device ∧
      ((∃ known, allocator.ledger.devices.get? device = some known ∧
          changed = { known with pool := { known.pool with memoryTotalMib } }) ∨
        changed = { config, pool := { memoryTotalMib } }) ∧
      allocator.register device memoryTotalMib config =
        (.ok (), { allocator with
          ledger.devices := allocator.ledger.devices.insert device changed }) := by
  unfold register
  cases config.validate with
  | error failure => exact .inl ⟨failure, rfl⟩
  | ok =>
      cases known : allocator.ledger.devices.get? device with
      | none => exact .inr ⟨_, rfl, by rw [Ledger.liveOn, known], .inr rfl, rfl⟩
      | some books =>
          by_cases same : books.config = config
          · simp only [if_pos same]
            exact .inr ⟨{ books with pool := { books.pool with memoryTotalMib } }, same,
              by rw [Ledger.liveOn_eq known]; rfl, .inl ⟨books, rfl, rfl⟩, rfl⟩
          · by_cases unused : books.pool.allocations = []
            · simp only [if_neg same, if_pos unused]
              refine .inr ⟨{ config, pool := { memoryTotalMib } }, rfl, ?_, .inr rfl, ?_⟩
              · rw [Ledger.liveOn_eq known]
                exact unused.symm
              · rw [unused]
            · simp only [if_neg same, if_neg unused]
              exact .inl ⟨_, rfl⟩

structure Sound (allocator : PartitionAllocator) : Prop where
  coherent : allocator.ledger.Coherent
  accounted : allocator.ledger.Each PartitionedDevice.Accounted

theorem sound_new (policy : AllocationPolicy) : ({ policy } : PartitionAllocator).Sound :=
  ⟨Ledger.coherent_empty, fun _ _ found => by cases found⟩

/-- Whether a device is added, kept or divided anew, what is known of it stays, apart from its
memory and its division. -/
theorem Sound.register_cases {allocator : PartitionAllocator} (sound : allocator.Sound)
    (device : String) (memoryTotalMib : UInt64) (config : PartitionConfig) :
    (∃ failure, allocator.register device memoryTotalMib config = (.error failure, allocator)) ∨
    ∃ changed : PartitionedDevice, changed.config = config ∧
      changed.pool.memoryTotalMib = memoryTotalMib ∧
      (∀ known, allocator.ledger.devices.get? device = some known →
        changed = { known with config, pool := { known.pool with memoryTotalMib } }) ∧
      allocator.register device memoryTotalMib config =
        (.ok (), { allocator with
          ledger.devices := allocator.ledger.devices.insert device changed }) := by
  rcases allocator.register_cases device memoryTotalMib config with
    refused | ⟨changed, divided, live, ⟨books, found, rfl⟩ | rfl, registered⟩
  · exact .inl refused
  · refine .inr ⟨_, divided, rfl, fun known stored => ?_, registered⟩
    rw [found, Option.some.injEq] at stored
    rw [← divided, stored]
  · refine .inr ⟨_, rfl, rfl, fun known stored => ?_, registered⟩
    rw [Ledger.liveOn_eq stored] at live
    have unused : known.pool.allocations = [] := live.symm
    have free := (sound.accounted device known stored).dies_eq_empty unused
    simp only [free, unused]

/-- A device that is known with its memory and its division is entered without a trace. -/
theorem register_eq_self {allocator : PartitionAllocator} {device : String}
    {known : PartitionedDevice} (stored : allocator.ledger.devices.get? device = some known)
    (valid : known.config.validate = .ok ()) :
    allocator.register device known.pool.memoryTotalMib known.config = (.ok (), allocator) := by
  unfold register
  simp only [valid, stored, if_pos, Keyed.insert_eq_self stored]

theorem liveOn_register (allocator : PartitionAllocator) (device : String)
    (memoryTotalMib : UInt64) (config : PartitionConfig) (other : String) :
    (allocator.register device memoryTotalMib config).2.ledger.liveOn other =
      allocator.ledger.liveOn other := by
  rcases allocator.register_cases device memoryTotalMib config with
    ⟨failure, refused⟩ | ⟨changed, _, live, _, registered⟩
  · rw [refused]
  · rw [registered]
    exact Ledger.liveOn_insert_of_eq live other

theorem owners_register (allocator : PartitionAllocator) (device : String)
    (memoryTotalMib : UInt64) (config : PartitionConfig) :
    (allocator.register device memoryTotalMib config).2.ledger.owners =
      allocator.ledger.owners := by
  rcases allocator.register_cases device memoryTotalMib config with
    ⟨failure, refused⟩ | ⟨changed, _, _, _, registered⟩
  · rw [refused]
  · rw [registered]

theorem Sound.register {allocator : PartitionAllocator} (sound : allocator.Sound)
    (device : String) (memoryTotalMib : UInt64) (config : PartitionConfig) :
    (allocator.register device memoryTotalMib config).2.Sound := by
  refine ⟨sound.coherent.of_same_places (owners_register ..)
    fun other => by rw [liveOn_register], ?_⟩
  rcases allocator.register_cases device memoryTotalMib config with
    ⟨failure, refused⟩ | ⟨changed, _, _, origin, registered⟩
  · rw [refused]
    exact sound.accounted
  · rw [registered]
    refine sound.accounted.insert ?_
    rcases origin with ⟨known, found, rfl⟩ | rfl
    · exact (sound.accounted device known found).resize memoryTotalMib
    · exact PartitionedDevice.accounted_empty config memoryTotalMib

theorem allocate_eq_error {allocator next : PartitionAllocator} {device : String}
    {request : AllocationRequest} {now : Timestamp} {failure : Failure}
    (refused : allocator.allocate device request now = (.error failure, next)) :
    next = allocator := by
  rcases allocator.allocate_cases device request now with
    ⟨_, same⟩ | ⟨_, _, _, _, _, _, granted⟩
  · rw [same] at refused
    exact (Prod.mk.inj refused).2.symm
  · rw [granted] at refused
    cases refused

theorem allocate_eq_ok {allocator next : PartitionAllocator} {device : String}
    {request : AllocationRequest} {now : Timestamp} {allocation : GpuAllocation}
    (granted : allocator.allocate device request now = (.ok allocation, next)) :
    allocation.Answers device request ∧ allocator.ledger.Entered next.ledger allocation := by
  rcases allocator.allocate_cases device request now with
    ⟨failure, refused⟩ | ⟨books, share, _, claimed, checked, claim, done⟩
  · rw [refused] at granted
    cases granted
  · rw [done] at granted
    cases granted
    obtain ⟨_, unused, known, _⟩ := check_eq_ok.mp checked
    rcases PartitionedDevice.claim?_cases claim with
      ⟨_, rfl, rfl⟩ | ⟨_, taken, dies, _, rfl, rfl⟩
    · refine ⟨⟨rfl, rfl, rfl, rfl, rfl⟩, Ledger.entered_enter unused rfl ?_⟩
      rw [Ledger.liveOn_eq known]
      rfl
    · refine ⟨⟨rfl, rfl, rfl, rfl, rfl⟩, Ledger.entered_enter unused rfl ?_⟩
      rw [Ledger.liveOn_eq known]
      rfl

theorem Sound.allocate {allocator : PartitionAllocator} (sound : allocator.Sound)
    (device : String) (request : AllocationRequest) (now : Timestamp) :
    (allocator.allocate device request now).2.Sound := by
  rcases allocator.allocate_cases device request now with
    ⟨failure, refused⟩ | ⟨books, share, granted, claimed, checked, claim, done⟩
  · rw [refused]
    exact sound
  · have entered := (allocate_eq_ok done).2
    rw [done]
    obtain ⟨_, unused, known, valid, fits⟩ := check_eq_ok.mp checked
    have fresh := sound.coherent.fresh unused device
    rw [Ledger.liveOn_eq known] at fresh
    exact ⟨sound.coherent.enter entered, sound.accounted.insert
      ((sound.accounted device books known).grant claim fits
        (ComputeMode.mem_shares_of_shareOf valid) rfl fresh)⟩

theorem Sound.release {allocator : PartitionAllocator} (sound : allocator.Sound) (id : String) :
    (allocator.release id).2.Sound :=
  ⟨sound.coherent.release id, sound.accounted.release sound.coherent id
    fun _ _ _ accounted removed => accounted.remove removed⟩

theorem Sound.expire {allocator : PartitionAllocator} (sound : allocator.Sound)
    (now : Timestamp) : (allocator.expire now).2.Sound :=
  ⟨sound.coherent.expire now, sound.accounted.expire now
    fun _ accounted => accounted.expire now⟩

theorem Sound.perform {allocator : PartitionAllocator} (sound : allocator.Sound)
    (operation : Operation) : (allocator.perform operation).Sound := by
  cases operation with
  | register device memoryTotalMib config => exact sound.register device memoryTotalMib config
  | allocate device request now => exact sound.allocate device request now
  | release id => exact sound.release id
  | expire now => exact sound.expire now
  | select strategy request => exact ⟨sound.coherent, sound.accounted⟩

theorem Sound.run {allocator : PartitionAllocator} (sound : allocator.Sound)
    (operations : List Operation) : (allocator.run operations).Sound := by
  induction operations generalizing allocator with
  | nil => exact sound
  | cons operation rest ih => exact ih (sound.perform operation)

/-- A grant by dies takes as many dies as the share has, all of them free before, and
leaves no free die below one of them. -/
theorem dies_of_grant {allocator next : PartitionAllocator} {device : String}
    {request : AllocationRequest} {now : Timestamp} {allocation : GpuAllocation}
    {before : PartitionedDevice} (granted : allocator.allocate device request now =
      (.ok allocation, next))
    (known : allocator.ledger.devices.get? device = some before)
    (mode : before.config.computeMode = .cpx) :
    ∃ taken : List Die, allocation.dies = taken.map Die.index ∧
      taken.length = allocation.share.dies.toNat ∧
      (∀ die ∈ taken, before.dies.ownerOf die = none) ∧
      (∀ die ∈ taken, ∀ left, before.dies.ownerOf left = none → left ∉ taken → die < left) ∧
      ∃ after, next.ledger.devices.get? device = some after ∧
        ∀ die, after.dies.ownerOf die =
          if die ∈ taken then some allocation.id else before.dies.ownerOf die := by
  rcases allocator.allocate_cases device request now with
    ⟨failure, refused⟩ | ⟨books, share, _, claimed, checked, claim, done⟩
  · rw [refused] at granted
    cases granted
  · rw [done] at granted
    obtain ⟨same, rfl⟩ := Prod.mk.inj granted
    cases same
    obtain ⟨_, _, found, _⟩ := check_eq_ok.mp checked
    cases known.symm.trans found
    rcases PartitionedDevice.claim?_cases claim with
      ⟨other, _, _⟩ | ⟨_, taken, dies, claimedDies, rfl, rfl⟩
    · exact absurd mode other
    · exact ⟨taken, rfl, DieMap.length_claim? claimedDies,
        fun die member => DieMap.free_of_claim? claimedDies member,
        fun die member left => DieMap.lowest_of_claim? claimedDies member,
        _, Keyed.get?_insert_self _ _ _, DieMap.ownerOf_claim? claimedDies⟩

/-- In every state that an allocator reaches, each device is consistent in its mode,
and the next grant by dies takes the lowest dies that are free. -/
theorem run_consistent (policy : AllocationPolicy) (operations : List Operation) :
    (({ policy } : PartitionAllocator).run operations).ledger.Each
      PartitionedDevice.Consistent ∧
    ∀ device request now allocation next before,
      (({ policy } : PartitionAllocator).run operations).allocate device request now =
        (.ok allocation, next) →
      (({ policy } : PartitionAllocator).run operations).ledger.devices.get? device =
        some before →
      before.config.computeMode = .cpx →
      ∃ taken : List Die, allocation.dies = taken.map Die.index ∧
        taken.length = allocation.share.dies.toNat ∧
        (∀ die ∈ taken, before.dies.ownerOf die = none) ∧
        (∀ die ∈ taken, ∀ left, before.dies.ownerOf left = none → left ∉ taken → die < left) ∧
        ∃ after, next.ledger.devices.get? device = some after ∧
          ∀ die, after.dies.ownerOf die =
            if die ∈ taken then some allocation.id else before.dies.ownerOf die := by
  have sound := (sound_new policy).run operations
  exact ⟨fun device books found => (sound.accounted device books found).consistent,
    fun _ _ _ _ _ _ granted known mode => dies_of_grant granted known mode⟩

end PartitionAllocator

end GpuSharing
