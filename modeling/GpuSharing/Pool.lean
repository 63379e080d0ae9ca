import GpuSharing.Allocation
import GpuSharing.Usage

/-!
# Capacity of one device

The allocations that live on a device, in the order in which they were granted, and
the share and memory that they leave.
-/

set_option autoImplicit false

namespace GpuSharing

structure SharePool where
  memoryTotalMib : UInt64
  allocations : List GpuAllocation := []
  deriving DecidableEq, Repr

/-- Takes the first allocation of a name out of a list. -/
def takeAllocation? (id : String) : List GpuAllocation → Option (GpuAllocation × List GpuAllocation)
  | [] => none
  | allocation :: rest =>
      if allocation.id = id then some (allocation, rest)
      else (takeAllocation? id rest).map fun (taken, left) => (taken, allocation :: left)

theorem takeAllocation?_eq_none {id : String} {allocations : List GpuAllocation} :
    takeAllocation? id allocations = none ↔ id ∉ allocations.map (·.id) := by
  induction allocations with
  | nil => simp [takeAllocation?]
  | cons head rest ih =>
      by_cases here : head.id = id
      · simp [takeAllocation?, here]
      · simp [takeAllocation?, here, Ne.symm here, ih]

/-- What is taken is the first of its name, and the others keep their order. -/
theorem takeAllocation?_eq_some {id : String} {allocations left : List GpuAllocation}
    {taken : GpuAllocation} (found : takeAllocation? id allocations = some (taken, left)) :
    taken.id = id ∧ ∃ before after, allocations = before ++ taken :: after ∧
      left = before ++ after ∧ id ∉ before.map (·.id) := by
  induction allocations generalizing left with
  | nil => simp [takeAllocation?] at found
  | cons head rest ih =>
      by_cases here : head.id = id
      · simp only [takeAllocation?, here, ↓reduceIte, Option.some.injEq, Prod.mk.injEq] at found
        obtain ⟨rfl, rfl⟩ := found
        exact ⟨here, [], rest, rfl, rfl, by simp⟩
      · simp only [takeAllocation?, here, ↓reduceIte, Option.map_eq_some_iff] at found
        obtain ⟨⟨other, others⟩, foundRest, same⟩ := found
        obtain ⟨rfl, rfl⟩ := Prod.mk.inj same
        obtain ⟨name, before, after, rfl, rfl, absent⟩ := ih foundRest
        exact ⟨name, head :: before, after, rfl, rfl, by simpa [Ne.symm here] using absent⟩

def requireMemory (device : String) (requested free : UInt64) : Outcome Unit :=
  require (requested ≤ free)
    (.resourceExhausted device s!"requested {requested} MiB, only {free} MiB free")

namespace SharePool

def shareUsed (pool : SharePool) : Share := Share.sum (pool.allocations.map (·.share))

def memoryUsedMib (pool : SharePool) : UInt64 :=
  (pool.allocations.map (·.memoryMib)).foldl (· + ·) 0

def memoryFreeMib (pool : SharePool) : UInt64 := monus pool.memoryTotalMib pool.memoryUsedMib

def checkShare (pool : SharePool) (device : String) (share : Share) : Outcome Unit :=
  let free := pool.shareUsed.remaining
  require (share ≤ free)
    (.resourceExhausted device s!"requested fraction {share}, only {free} free")

def checkMemory (pool : SharePool) (device : String) (memoryMib : UInt64) : Outcome Unit :=
  requireMemory device memoryMib pool.memoryFreeMib

def check (pool : SharePool) (device : String) (share : Share) (memoryMib : UInt64) :
    Outcome Unit := do
  pool.checkShare device share
  pool.checkMemory device memoryMib

theorem check_eq_ok {pool : SharePool} {device : String} {share : Share} {memoryMib : UInt64}
    {result : Unit} : pool.check device share memoryMib = .ok result ↔
      share ≤ pool.shareUsed.remaining ∧ memoryMib ≤ pool.memoryFreeMib := by
  simp only [check, checkShare, checkMemory, requireMemory, Outcome.bind_eq_ok, require_eq_ok,
    exists_and_left, exists_const]

def push (pool : SharePool) (allocation : GpuAllocation) : SharePool :=
  { pool with allocations := pool.allocations ++ [allocation] }

def remove? (pool : SharePool) (id : String) : Option (GpuAllocation × SharePool) :=
  (takeAllocation? id pool.allocations).map fun (taken, left) =>
    (taken, { pool with allocations := left })

def expire (pool : SharePool) (now : Timestamp) : List GpuAllocation × SharePool :=
  (pool.allocations.filter (·.isExpiredAt now),
    { pool with allocations := pool.allocations.filter fun live => !live.isExpiredAt now })

def usage (pool : SharePool) (device : String) : DeviceUsage :=
  { device
    shareUsed := pool.shareUsed
    memoryUsedMib := pool.memoryUsedMib
    memoryTotalMib := pool.memoryTotalMib
    allocations := pool.allocations.length }

end SharePool

end GpuSharing
