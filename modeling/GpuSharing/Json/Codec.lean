import GpuSharing.Json.Record

/-!
# Values with a JSON form

The types whose values are written to reports or read back from records, together
with the forms of texts, counts, options, lists and pairs.
-/

set_option autoImplicit false

namespace GpuSharing

class ToJson (α : Type) where
  toJson : α → Json

class OfJson (α : Type) where
  ofJson? : Json → Option α

namespace Json

def of {α : Type} [ToJson α] (value : α) : Json := ToJson.toJson value

def int? : Json → Option Int
  | .integer value => some value
  | _ => none

def nat? (json : Json) : Option Nat := (json.int?.filter (0 ≤ ·)).map Int.toNat

end Json

instance : ToJson Json := ⟨id⟩
instance : ToJson Unit := ⟨fun _ => .null⟩
instance : ToJson Bool := ⟨.bool⟩
instance : ToJson String := ⟨.string⟩
instance : ToJson Nat := ⟨.ofNat⟩
instance : ToJson Int := ⟨.integer⟩
instance : ToJson UInt8 := ⟨fun value => .ofNat value.toNat⟩
instance : ToJson UInt64 := ⟨.ofUInt64⟩
instance : ToJson Float := ⟨.ofFloat⟩

instance {α : Type} [ToJson α] : ToJson (Option α) := ⟨.ofOption .of⟩
instance {α : Type} [ToJson α] : ToJson (List α) := ⟨.ofList .of⟩

instance {α β : Type} [ToJson α] [ToJson β] : ToJson (α × β) :=
  ⟨fun (first, second) => .array [.of first, .of second]⟩

instance : OfJson Json := ⟨some⟩
instance : OfJson Bool := ⟨Json.bool?⟩
instance : OfJson String := ⟨Json.string?⟩
instance : OfJson Nat := ⟨Json.nat?⟩
instance : OfJson Int := ⟨Json.int?⟩
instance : OfJson UInt8 := ⟨Json.uint8?⟩
instance : OfJson UInt64 := ⟨Json.uint64?⟩
instance : OfJson Float := ⟨Json.float?⟩

instance {α : Type} [OfJson α] : OfJson (List α) := ⟨Json.list? OfJson.ofJson?⟩

end GpuSharing
