/-!
# Refusals

Why the node turns a request down. A failure carries its main error, the notes that
explain it and the texts of the errors that led to it.
-/

set_option autoImplicit false

namespace GpuSharing

inductive Entity where
  | device
  | allocation
  | reservation
  deriving DecidableEq, Repr

def Entity.name : Entity → String
  | device => "device"
  | allocation => "allocation"
  | reservation => "reservation"

inductive AllocationError where
  | validation (reason : String)
  | resourceExhausted (device reason : String)
  | policyViolation (reason : String)
  | conflict (gpu reason : String)
  | limitExceeded (reason : String)
  | notFound (entity : Entity) (id : String)
  deriving DecidableEq, Repr

namespace AllocationError

def message : AllocationError → String
  | validation reason => s!"invalid request: {reason}"
  | resourceExhausted device reason => s!"insufficient resources on {device}: {reason}"
  | policyViolation reason => s!"policy violation: {reason}"
  | conflict gpu reason => s!"reservation conflict on {gpu}: {reason}"
  | limitExceeded reason => s!"limit exceeded: {reason}"
  | notFound entity id => s!"{entity.name} not found: {id}"

def kind : AllocationError → String
  | validation _ => "Validation"
  | resourceExhausted _ _ => "ResourceExhausted"
  | policyViolation _ => "PolicyViolation"
  | conflict _ _ => "Conflict"
  | limitExceeded _ => "LimitExceeded"
  | notFound _ _ => "NotFound"

def isTransient : AllocationError → Bool
  | resourceExhausted _ _ => true
  | _ => false

def isNotFound : AllocationError → Bool
  | notFound _ _ => true
  | _ => false

end AllocationError

structure Failure where
  error : AllocationError
  notes : List String := []
  causes : List String := []
  deriving DecidableEq, Repr

/-- The result of an operation that may be turned down. -/
abbrev Outcome (α : Type) := Except Failure α

def refuse {α : Type} (error : AllocationError) : Outcome α := .error { error }

def require (condition : Prop) [Decidable condition] (error : AllocationError) : Outcome Unit :=
  if condition then .ok () else refuse error

theorem require_eq_ok {condition : Prop} [Decidable condition] {error : AllocationError}
    {result : Unit} : require condition error = .ok result ↔ condition := by
  unfold require refuse
  by_cases holds : condition
  · simp [holds]
  · simp [holds]

theorem require_eq_error {condition : Prop} [Decidable condition] {error : AllocationError}
    {failure : Failure} :
    require condition error = .error failure ↔ ¬condition ∧ failure = { error } := by
  unfold require refuse
  by_cases holds : condition
  · simp [holds]
  · simp [holds, eq_comm]

/-- Two steps succeed together when the first does, and the second with its result. -/
theorem Outcome.bind_eq_ok {α β : Type} {first : Outcome α} {next : α → Outcome β} {result : β} :
    (first >>= next) = .ok result ↔ ∃ value, first = .ok value ∧ next value = .ok result := by
  cases first with
  | error failure => simp [bind, Except.bind]
  | ok value => simp [bind, Except.bind]

/-- Two steps fail together when the first does, or the second with its result. -/
theorem Outcome.bind_eq_error {α β : Type} {first : Outcome α} {next : α → Outcome β}
    {failure : Failure} : (first >>= next) = .error failure ↔
      first = .error failure ∨ ∃ value, first = .ok value ∧ next value = .error failure := by
  cases first with
  | error refusal => simp [bind, Except.bind]
  | ok value => simp [bind, Except.bind]

theorem Outcome.pure_eq_ok {α : Type} {value result : α} :
    (pure value : Outcome α) = .ok result ↔ value = result := by
  simp [pure, Except.pure]

theorem Outcome.isOk_iff {outcome : Outcome Unit} : outcome.isOk ↔ outcome = .ok () := by
  cases outcome with
  | error failure => simp [Except.isOk, Except.toBool]
  | ok => simp [Except.isOk, Except.toBool]

theorem Outcome.toOption_eq_some {α : Type} {outcome : Outcome α} {value : α} :
    outcome.toOption = some value ↔ outcome = .ok value := by
  cases outcome with
  | error failure => simp [Except.toOption]
  | ok result => simp [Except.toOption]

end GpuSharing
