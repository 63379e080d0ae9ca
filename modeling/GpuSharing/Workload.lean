import GpuSharing.Json.Codec

/-!
# Workloads

The identity of the container that an allocation belongs to.
-/

set_option autoImplicit false

namespace GpuSharing

structure Workload where
  pod : String := ""
  space : String := ""
  container : String := ""
  deriving DecidableEq, Repr

namespace Workload

def text (workload : Workload) : String :=
  s!"{workload.space}/{workload.pod}/{workload.container}"

def fieldNames : List String := ["podName", "namespace", "containerName"]

def fields (workload : Workload) : List (String × Json) :=
  [("podName", .string workload.pod), ("namespace", .string workload.space),
    ("containerName", .string workload.container)]

def toJson (workload : Workload) : Json := .object workload.fields

instance : ToJson Workload := ⟨toJson⟩

def ofJson? (json : Json) : Option Workload := do
  let record ← json.record? fieldNames
  let pod ← record.required? "podName" Json.string?
  let space ← record.required? "namespace" Json.string?
  let container ← record.required? "containerName" Json.string?
  pure { pod, space, container }

instance : OfJson Workload := ⟨ofJson?⟩

end Workload

end GpuSharing
