import GpuSharing.Fractional
import GpuSharing.Proofs.Ledger

/-!
# Capacity of the fractional allocator

However a fractional allocator is used, the shares on a device add up to one device
at most. Memory may be overbooked, but only because a device has shrunk: no grant
raises the memory in use above the memory there is.
-/

set_option autoImplicit false

namespace GpuSharing

instance : LawfulBooked SharePool where
  remove?_eq pool id := by
    change (pool.remove? id).map (fun result => (result.1, result.2.allocations)) =
      takeAllocation? id pool.allocations
    simp [SharePool.remove?, Function.comp_def]
  expire_eq _ _ _ := ⟨rfl, rfl⟩

/-- The shares of a device fit on it, and both of its sums are those of unbounded
numbers: no partial sum has overflowed or saturated. -/
structure SharePool.WithinCapacity (pool : SharePool) : Prop where
  shares_fit : totalMillis pool.allocations ≤ Share.scale
  shares_exact : pool.shareUsed.millis.toNat = totalMillis pool.allocations
  memory_fits : totalMemory pool.allocations < UInt64.size
  memory_exact : pool.memoryUsedMib.toNat = totalMemory pool.allocations

namespace SharePool

/-- Both sums are exact as soon as they fit. -/
theorem WithinCapacity.of_fits {pool : SharePool}
    (shares : totalMillis pool.allocations ≤ Share.scale)
    (memory : totalMemory pool.allocations < UInt64.size) : pool.WithinCapacity := by
  refine ⟨shares, ?_, memory, toNat_memoryUsedMib_eq memory⟩
  rw [toNat_shareUsed]
  simp only [Share.scale, UInt32.size] at shares ⊢
  omega

theorem withinCapacity_empty (memoryTotalMib : UInt64) :
    ({ memoryTotalMib } : SharePool).WithinCapacity :=
  .of_fits (Nat.zero_le _) (Nat.zero_lt_succ _)

theorem WithinCapacity.resize {pool : SharePool} (within : pool.WithinCapacity)
    (memoryTotalMib : UInt64) : { pool with memoryTotalMib }.WithinCapacity :=
  .of_fits within.shares_fit within.memory_fits

theorem WithinCapacity.remove {pool left : SharePool} {id : String} {taken : GpuAllocation}
    (within : pool.WithinCapacity) (removed : pool.remove? id = some (taken, left)) :
    left.WithinCapacity := by
  have found : takeAllocation? id pool.allocations = some (taken, left.allocations) :=
    LawfulBooked.takes (show Booked.remove? pool id = some (taken, left) from removed)
  have shares := totalOf_takeAllocation? (·.share.millis.toNat) found
  have memory := totalOf_takeAllocation? (·.memoryMib.toNat) found
  refine .of_fits (Nat.le_trans ?_ within.shares_fit) (Nat.lt_of_le_of_lt ?_ within.memory_fits)
  · simp only [totalMillis, shares]
    omega
  · simp only [totalMemory, memory]
    omega

theorem WithinCapacity.expire {pool : SharePool} (within : pool.WithinCapacity)
    (now : Timestamp) : (pool.expire now).2.WithinCapacity :=
  .of_fits (Nat.le_trans (totalOf_filter_le _ _ _) within.shares_fit)
    (Nat.lt_of_le_of_lt (totalOf_filter_le _ _ _) within.memory_fits)

/-- What a check lets through fits next to what is live. Memory that fits nowhere is
let through only if none is asked for. -/
theorem WithinCapacity.of_check {pool : SharePool} (within : pool.WithinCapacity)
    {device : String} {share : Share} {memoryMib : UInt64} {result : Unit}
    (granted : pool.check device share memoryMib = .ok result) :
    totalMillis pool.allocations + share.millis.toNat ≤ Share.scale ∧
      (totalMemory pool.allocations + memoryMib.toNat ≤ pool.memoryTotalMib.toNat ∨
        memoryMib = 0) := by
  obtain ⟨shareFits, memoryFits⟩ := check_eq_ok.mp granted
  rw [Share.le_iff, Share.toNat_remaining, within.shares_exact] at shareFits
  have shares := within.shares_fit
  refine ⟨by omega, ?_⟩
  rw [← within.memory_exact]
  exact fits_of_le_monus memoryFits

theorem WithinCapacity.push {pool : SharePool} (within : pool.WithinCapacity) {device : String}
    {allocation : GpuAllocation} {result : Unit}
    (granted : pool.check device allocation.share allocation.memoryMib = .ok result) :
    (pool.push allocation).WithinCapacity := by
  obtain ⟨shares, memory⟩ := within.of_check granted
  have total := pool.memoryTotalMib.toNat_lt
  have before := within.memory_fits
  refine .of_fits ?_ ?_
  · simpa [SharePool.push, totalMillis] using shares
  · simp only [SharePool.push, totalMemory, totalOf_append, totalOf_cons, totalOf_nil,
      UInt64.size] at before memory ⊢
    rcases memory with fits | none
    · omega
    · rw [none]
      exact before

end SharePool

namespace FractionalAllocator

/-- The ways in which the allocator is used that may change it. -/
inductive Operation where
  | register (device : String) (memoryTotalMib : UInt64)
  | allocate (device : String) (request : AllocationRequest) (now : Timestamp)
  | release (id : String)
  | expire (now : Timestamp)
  | select (strategy : SelectionStrategy) (request : AllocationRequest)

/-- The allocator after one use of it, whether that succeeded or not. -/
def perform (allocator : FractionalAllocator) : Operation → FractionalAllocator
  | .register device memoryTotalMib => allocator.register device memoryTotalMib
  | .allocate device request now => (allocator.allocate device request now).2
  | .release id => (allocator.release id).2
  | .expire now => (allocator.expire now).2
  | .select strategy request => (allocator.select strategy request).2

def run (allocator : FractionalAllocator) (operations : List Operation) : FractionalAllocator :=
  operations.foldl perform allocator

theorem check_eq_ok {allocator : FractionalAllocator} {device : String}
    {request : AllocationRequest} {pool : SharePool} {share : Share} :
    allocator.check device request = .ok (pool, share) ↔
      allocator.policy.vet request = .ok share ∧
        allocator.ledger.owners.get? request.id = none ∧
        allocator.ledger.devices.get? device = some pool ∧
        pool.check device share request.memoryMib = .ok () := by
  unfold check Ledger.requireUnused Ledger.device
  cases known : allocator.ledger.devices.get? device with
  | none => simp [Outcome.bind_eq_ok, refuse]
  | some found =>
      simp only [Outcome.bind_eq_ok, require_eq_ok, Outcome.pure_eq_ok, Prod.mk.injEq,
        Except.ok.injEq, Option.some.injEq]
      constructor
      · rintro ⟨_, vetted, _, unused, _, rfl, _, fits, rfl, rfl⟩
        exact ⟨vetted, unused, rfl, fits⟩
      · rintro ⟨vetted, unused, rfl, fits⟩
        exact ⟨share, vetted, (), unused, found, rfl, (), fits, rfl, rfl⟩

/-- A request is turned down without a trace, or granted from a pool that passed the
check. -/
theorem allocate_cases (allocator : FractionalAllocator) (device : String)
    (request : AllocationRequest) (now : Timestamp) :
    (∃ failure, allocator.allocate device request now = (.error failure, allocator)) ∨
    ∃ pool share, allocator.check device request = .ok (pool, share) ∧
      allocator.allocate device request now =
        (.ok (.ofRequest device request share .active now),
          { allocator with
            ledger := allocator.ledger.enter device
              (pool.push (.ofRequest device request share .active now))
              (.ofRequest device request share .active now) }) := by
  unfold allocate
  cases checked : allocator.check device request with
  | error failure => exact .inl ⟨failure, rfl⟩
  | ok result => exact .inr ⟨result.1, result.2, rfl, rfl⟩

section Memory

/-- The memory that a device is known to have. -/
def memory? (allocator : FractionalAllocator) (device : String) : Option UInt64 :=
  (allocator.ledger.devices.get? device).map (·.memoryTotalMib)

variable (allocator : FractionalAllocator)

theorem memory?_register (place : String) (memory : UInt64) (device : String) :
    (allocator.register place memory).memory? device =
      if device = place then some memory else allocator.memory? device := by
  unfold memory? register
  rw [Keyed.get?_insert]
  split
  · cases allocator.ledger.devices.get? place with
    | none => rfl
    | some pool => rfl
  · rfl

variable {allocator} in
/-- A device that is known with its memory is entered without a trace. -/
theorem register_eq_self {device : String} {memory : UInt64}
    (told : allocator.memory? device = some memory) :
    allocator.register device memory = allocator := by
  obtain ⟨pool, known, rfl⟩ := Option.map_eq_some_iff.mp told
  unfold register
  rw [known]
  simp only [Keyed.insert_eq_self known]

theorem memory?_allocate (place : String) (request : AllocationRequest) (now : Timestamp) :
    (allocator.allocate place request now).2.memory? = allocator.memory? := by
  rcases allocator.allocate_cases place request now with ⟨_, refused⟩ | ⟨_, _, checked, granted⟩
  · rw [refused]
  · rw [granted]
    obtain ⟨_, _, known, _⟩ := check_eq_ok.mp checked
    exact funext (Ledger.map_get?_insert known rfl)

theorem memory?_release (id : String) : (allocator.release id).2.memory? = allocator.memory? := by
  refine funext (Ledger.map_get?_release (fun removed => ?_) id)
  obtain ⟨_, _, same⟩ := Option.map_eq_some_iff.mp removed
  exact (Prod.mk.inj same).2 ▸ rfl

theorem memory?_expire (now : Timestamp) :
    (allocator.expire now).2.memory? = allocator.memory? :=
  funext (Ledger.map_get?_expire fun _ => rfl)

end Memory

structure Sound (allocator : FractionalAllocator) : Prop where
  coherent : allocator.ledger.Coherent
  within : allocator.ledger.Each SharePool.WithinCapacity

theorem sound_new (policy : AllocationPolicy) : ({ policy } : FractionalAllocator).Sound :=
  ⟨Ledger.coherent_empty, fun _ _ found => by cases found⟩

theorem liveOn_register (allocator : FractionalAllocator) (device : String)
    (memoryTotalMib : UInt64) (other : String) :
    (allocator.register device memoryTotalMib).ledger.liveOn other =
      allocator.ledger.liveOn other := by
  refine Ledger.liveOn_insert_of_eq ?_ other
  unfold Ledger.liveOn
  cases allocator.ledger.devices.get? device with
  | none => rfl
  | some pool => rfl

theorem Sound.register {allocator : FractionalAllocator} (sound : allocator.Sound)
    (device : String) (memoryTotalMib : UInt64) :
    (allocator.register device memoryTotalMib).Sound := by
  refine ⟨sound.coherent.of_same_places rfl fun other => by rw [liveOn_register], ?_⟩
  unfold FractionalAllocator.register
  cases known : allocator.ledger.devices.get? device with
  | none => exact sound.within.insert (SharePool.withinCapacity_empty memoryTotalMib)
  | some pool => exact sound.within.insert ((sound.within device pool known).resize memoryTotalMib)

theorem allocate_eq_error {allocator next : FractionalAllocator} {device : String}
    {request : AllocationRequest} {now : Timestamp} {failure : Failure}
    (refused : allocator.allocate device request now = (.error failure, next)) :
    next = allocator := by
  rcases allocator.allocate_cases device request now with
    ⟨_, same⟩ | ⟨_, _, _, granted⟩
  · rw [same] at refused
    exact (Prod.mk.inj refused).2.symm
  · rw [granted] at refused
    cases refused

theorem allocate_eq_ok {allocator next : FractionalAllocator} {device : String}
    {request : AllocationRequest} {now : Timestamp} {allocation : GpuAllocation}
    (granted : allocator.allocate device request now = (.ok allocation, next)) :
    allocation.Answers device request ∧ allocator.ledger.Entered next.ledger allocation := by
  rcases allocator.allocate_cases device request now with
    ⟨failure, refused⟩ | ⟨pool, share, checked, done⟩
  · rw [refused] at granted
    cases granted
  · rw [done] at granted
    cases granted
    obtain ⟨_, unused, known, _⟩ := check_eq_ok.mp checked
    refine ⟨⟨rfl, rfl, rfl, rfl, rfl⟩, Ledger.entered_enter unused rfl ?_⟩
    rw [Ledger.liveOn_eq known]
    rfl

theorem Sound.allocate {allocator : FractionalAllocator} (sound : allocator.Sound)
    (device : String) (request : AllocationRequest) (now : Timestamp) :
    (allocator.allocate device request now).2.Sound := by
  rcases allocator.allocate_cases device request now with
    ⟨failure, refused⟩ | ⟨pool, share, checked, granted⟩
  · rw [refused]
    exact sound
  · have entered := (allocate_eq_ok granted).2
    rw [granted]
    obtain ⟨_, _, known, fits⟩ := check_eq_ok.mp checked
    exact ⟨sound.coherent.enter entered,
      sound.within.insert ((sound.within device pool known).push fits)⟩

theorem Sound.release {allocator : FractionalAllocator} (sound : allocator.Sound) (id : String) :
    (allocator.release id).2.Sound :=
  ⟨sound.coherent.release id, sound.within.release sound.coherent id
    fun _ _ _ within removed => within.remove removed⟩

theorem Sound.expire {allocator : FractionalAllocator} (sound : allocator.Sound)
    (now : Timestamp) : (allocator.expire now).2.Sound :=
  ⟨sound.coherent.expire now, sound.within.expire now fun _ within => within.expire now⟩

theorem Sound.perform {allocator : FractionalAllocator} (sound : allocator.Sound)
    (operation : Operation) : (allocator.perform operation).Sound := by
  cases operation with
  | register device memoryTotalMib => exact sound.register device memoryTotalMib
  | allocate device request now => exact sound.allocate device request now
  | release id => exact sound.release id
  | expire now => exact sound.expire now
  | select strategy request => exact ⟨sound.coherent, sound.within⟩

theorem Sound.run {allocator : FractionalAllocator} (sound : allocator.Sound)
    (operations : List Operation) : (allocator.run operations).Sound := by
  induction operations generalizing allocator with
  | nil => exact sound
  | cons operation rest ih => exact ih (sound.perform operation)

/-- A grant adds the memory that was asked for, and unless that is none it leaves no
more memory in use than the device has. -/
theorem Sound.memory_of_grant {allocator next : FractionalAllocator} (sound : allocator.Sound)
    {device : String} {request : AllocationRequest} {now : Timestamp} {allocation : GpuAllocation}
    (granted : allocator.allocate device request now = (.ok allocation, next)) :
    ∃ before after, allocator.ledger.devices.get? device = some before ∧
      next.ledger.devices.get? device = some after ∧
      after.memoryTotalMib = before.memoryTotalMib ∧
      totalMemory after.allocations =
        totalMemory before.allocations + request.memoryMib.toNat ∧
      (totalMemory after.allocations ≤ after.memoryTotalMib.toNat ∨
        request.memoryMib = 0 ∧
          totalMemory after.allocations = totalMemory before.allocations) := by
  rcases allocator.allocate_cases device request now with
    ⟨failure, refused⟩ | ⟨pool, share, checked, done⟩
  · rw [refused] at granted
    cases granted
  · rw [done] at granted
    obtain ⟨_, rfl⟩ := Prod.mk.inj granted
    obtain ⟨_, _, known, fits⟩ := check_eq_ok.mp checked
    have memory := ((sound.within device pool known).of_check fits).2
    have grown : totalMemory (pool.push (.ofRequest device request share .active now)).allocations =
        totalMemory pool.allocations + request.memoryMib.toNat := by
      simp [SharePool.push, totalMemory, GpuAllocation.ofRequest]
    refine ⟨pool, _, known, Keyed.get?_insert_self _ _ _, rfl, grown, ?_⟩
    rw [grown]
    rcases memory with enough | none
    · exact .inl enough
    · exact .inr ⟨none, by simp [none]⟩

/-- In every state that an allocator reaches, whatever the requests and however the
memory of its devices changes, no device is over its capacity, and the next grant
leaves the memory of its device within bounds unless it takes none. -/
theorem run_within_capacity (policy : AllocationPolicy) (operations : List Operation) :
    (({ policy } : FractionalAllocator).run operations).ledger.Each SharePool.WithinCapacity ∧
    ∀ device request now allocation next,
      (({ policy } : FractionalAllocator).run operations).allocate device request now =
        (.ok allocation, next) →
      ∃ before after,
        (({ policy } : FractionalAllocator).run operations).ledger.devices.get? device =
          some before ∧
        next.ledger.devices.get? device = some after ∧
        after.memoryTotalMib = before.memoryTotalMib ∧
        totalMemory after.allocations =
          totalMemory before.allocations + request.memoryMib.toNat ∧
        (totalMemory after.allocations ≤ after.memoryTotalMib.toNat ∨
          request.memoryMib = 0 ∧
            totalMemory after.allocations = totalMemory before.allocations) := by
  have sound := (sound_new policy).run operations
  exact ⟨sound.within, fun _ _ _ _ _ granted => sound.memory_of_grant granted⟩

end FractionalAllocator

end GpuSharing
