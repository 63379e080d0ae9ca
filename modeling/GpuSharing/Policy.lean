import GpuSharing.Request
import GpuSharing.Share

/-!
# Admission policy

The rules that every allocation request has to meet, whichever allocator serves it.
-/

set_option autoImplicit false

namespace GpuSharing

structure AllocationPolicy where
  sharing : Bool := true
  minFraction : Float := Share.leastFraction
  maxFraction : Float := Share.greatestFraction
  allowed : List IsolationType := IsolationType.all

/-- The names of the values that are blank, in order. -/
def blankFields (fields : List (String × String)) : List String :=
  (fields.filter fun field => Text.isVoid field.2).map (·.1)

/-- Refuses a request in which a named value is blank. -/
def requireFields (fields : List (String × String)) : Outcome Unit :=
  let missing := blankFields fields
  let names := ", ".intercalate missing
  require (missing = []) (.validation s!"missing required fields: {names}")

namespace AllocationPolicy

/-- The share that a request asks for, if it may ask for it. -/
def vet (policy : AllocationPolicy) (request : AllocationRequest) : Outcome Share := do
  requireFields [("id", request.id), ("pod_name", request.workload.pod),
    ("namespace", request.workload.space)]
  let share ← Share.ofFraction request.fraction
  require (¬(request.sharing ∧ !policy.sharing))
    (.policyViolation "sharing was requested but is disabled on this node")
  let asked := Share.fractionText request.fraction
  let least := Share.fractionText policy.minFraction
  let greatest := Share.fractionText policy.maxFraction
  require (¬(request.fraction < policy.minFraction ∨ policy.maxFraction < request.fraction))
    (.policyViolation s!"fraction {asked} is outside the configured range [{least}, {greatest}]")
  require (request.isolation ∈ policy.allowed)
    (.policyViolation s!"isolation type `{request.isolation.name}` is not allowed")
  pure share

end AllocationPolicy

end GpuSharing
