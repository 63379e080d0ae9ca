import GpuSharing.Decimal.Binary64
import GpuSharing.Request
import GpuSharing.Usage

/-!
# Selection of a device

Strategies for choosing among the devices that can take a request. Devices are
compared in the order of their names, so ties go to the lowest name.
-/

set_option autoImplicit false

namespace GpuSharing

inductive SelectionStrategy where
  | firstFit
  | bestFit
  | worstFit
  | roundRobin
  | loadBalanced
  deriving DecidableEq, Repr

namespace SelectionStrategy

def default : SelectionStrategy := bestFit

def all : List SelectionStrategy := [firstFit, bestFit, worstFit, roundRobin, loadBalanced]

def name : SelectionStrategy → String
  | firstFit => "first-fit"
  | bestFit => "best-fit"
  | worstFit => "worst-fit"
  | roundRobin => "round-robin"
  | loadBalanced => "load-balanced"

def toJson (strategy : SelectionStrategy) : Json := .string strategy.name

instance : ToJson SelectionStrategy := ⟨toJson⟩

def ofJson? (json : Json) : Option SelectionStrategy :=
  json.case? (all.map fun strategy => (strategy.name, strategy))

instance : OfJson SelectionStrategy := ⟨ofJson?⟩

end SelectionStrategy

/-- The first element with the least key. -/
def leastBy {α : Type} (key : α → Int) : List α → Option α
  | [] => none
  | head :: rest =>
      match leastBy key rest with
      | none => some head
      | some best => if key best < key head then some best else some head

/-- Remembers the last device that was picked in rotation. -/
structure Selector where
  lastPick : Option String := none
  deriving DecidableEq, Repr

namespace Selector

/-- The first device after the last pick, or the first of all after the last one. -/
def nextInRotation (selector : Selector) (candidates : List DeviceUsage) : Option DeviceUsage :=
  let later := match selector.lastPick with
    | some last => candidates.find? fun candidate => last < candidate.device
    | none => none
  later <|> candidates.head?

/-- Picks a device. Only a pick in rotation is remembered. -/
def pick (selector : Selector) (strategy : SelectionStrategy) (candidates : List DeviceUsage) :
    Option DeviceUsage × Selector :=
  let sorted := candidates.mergeSort fun a b => a.device ≤ b.device
  match strategy with
  | .firstFit => (sorted.head?, selector)
  | .bestFit => (leastBy (fun usage => Decimal.orderKey usage.fitScore) sorted, selector)
  | .worstFit => (leastBy (fun usage => -Decimal.orderKey usage.fitScore) sorted, selector)
  | .loadBalanced => (leastBy (fun usage => Decimal.orderKey usage.loadScore) sorted, selector)
  | .roundRobin =>
      match selector.nextInRotation sorted with
      | some chosen => (some chosen, ⟨some chosen.device⟩)
      | none => (none, selector)

/-- Picks the device for a request, or says that no device can take it. -/
def choose (selector : Selector) (strategy : SelectionStrategy) (candidates : List DeviceUsage)
    (refusal : AllocationError) : Outcome String × Selector :=
  match selector.pick strategy candidates with
  | (some usage, selector) => (.ok usage.device, selector)
  | (none, selector) => (refuse refusal, selector)

end Selector

/-- No device at all can take a request. -/
def noDeviceFor (reason : String) (request : AllocationRequest) : AllocationError :=
  let fraction := Share.fractionText request.fraction
  .resourceExhausted "*" s!"{reason} can take fraction {fraction} with {request.memoryMib} MiB"

end GpuSharing
