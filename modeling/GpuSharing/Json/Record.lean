import GpuSharing.Json.Basic

/-!
# Records in JSON

How the fields of a record are found in a value. By name, unknown members are
ignored and a repeated field is refused; by position, a record may also be given as
an array. A field that may be null may also be left out, but only by name.
-/

set_option autoImplicit false

namespace GpuSharing.Json

def uint64? : Json → Option UInt64
  | .integer value => if 0 ≤ value ∧ value < UInt64.size then some (UInt64.ofNat value.toNat) else none
  | _ => none

def uint32? : Json → Option UInt32
  | .integer value => if 0 ≤ value ∧ value < UInt32.size then some (UInt32.ofNat value.toNat) else none
  | _ => none

def uint8? : Json → Option UInt8
  | .integer value => if 0 ≤ value ∧ value < UInt8.size then some (UInt8.ofNat value.toNat) else none
  | _ => none

def bool? : Json → Option Bool
  | .bool value => some value
  | _ => none

def string? : Json → Option String
  | .string value => some value
  | _ => none

def float? : Json → Option Float
  | .float value => some value
  | .integer value =>
      let magnitude := (UInt64.ofNat value.natAbs).toFloat
      some (if value < 0 then -magnitude else magnitude)
  | _ => none

def list? {α : Type} (decode : Json → Option α) : Json → Option (List α)
  | .array items => items.mapM decode
  | _ => none

def nullable? {α : Type} (decode : Json → Option α) : Json → Option (Option α)
  | .null => some none
  | json => (decode json).map some

/-- The name of a case: a string, or an object whose one member is null. -/
def caseName? : Json → Option String
  | .string name => some name
  | .object [(name, .null)] => some name
  | _ => none

def case? {α : Type} (cases : List (String × α)) (json : Json) : Option α := do
  let name ← json.caseName?
  (cases.find? (·.1 = name)).map (·.2)

structure Record where
  positional : Bool
  fields : List (String × Json)

def record? (names : List String) : Json → Option Record
  | .object members =>
      let known := members.filter fun member => names.contains member.1
      if names.all fun name => (known.filter (·.1 = name)).length ≤ 1 then
        some ⟨false, known⟩
      else none
  | .array items =>
      if items.length ≤ names.length then some ⟨true, names.zip items⟩ else none
  | _ => none

namespace Record

def field? (record : Record) (name : String) : Option Json :=
  (record.fields.find? (·.1 = name)).map (·.2)

def required? {α : Type} (record : Record) (name : String) (decode : Json → Option α) : Option α :=
  (record.field? name).bind decode

def optional? {α : Type} (record : Record) (name : String) (decode : Json → Option α) :
    Option (Option α) :=
  match record.field? name with
  | some value => value.nullable? decode
  | none => if record.positional then none else some none

def defaulted? {α : Type} (record : Record) (name : String) (missing : α)
    (decode : Json → Option α) : Option α :=
  match record.field? name with
  | some value => decode value
  | none => some missing

end Record

end GpuSharing.Json
