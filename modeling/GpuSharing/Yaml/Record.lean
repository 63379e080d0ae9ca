import GpuSharing.Decimal.Reader
import GpuSharing.Yaml.Basic

/-!
# Records in YAML

How typed fields are read from values. Only plain scalars are numbers or stand for
nothing, while any scalar is a text. A record, or a list, may be left empty.
-/

set_option autoImplicit false

namespace GpuSharing.Yaml

def string? : Yaml → Option String
  | .scalar text _ => some text
  | _ => none

def markedBase? : List Char → Option (Nat × List Char)
  | '0' :: 'x' :: digits => some (16, digits)
  | '0' :: 'o' :: digits => some (8, digits)
  | '0' :: 'b' :: digits => some (2, digits)
  | _ => none

/-- The digits of a whole number without a sign. A leading zero stands alone. -/
def unsigned? (chars : List Char) : Option Nat :=
  let signed := chars.head?.any fun c => c = '+' || c = '-'
  match markedBase? chars with
  | some (base, digits) => if digits.head? = some '+' then none else Decimal.natIn? base digits
  | none =>
      if signed || (1 < chars.length && chars.head? = some '0') then none
      else Decimal.natIn? 10 chars

def nat? : Yaml → Option Nat
  | .scalar text true =>
      match text.toList with
      | '+' :: digits => unsigned? digits
      | '-' :: digits => (unsigned? digits).filter (· = 0)
      | digits => unsigned? digits
  | _ => none

def natBelow? (limit : Nat) (value : Yaml) : Option Nat := value.nat?.filter (· < limit)

def uint64? (value : Yaml) : Option UInt64 := (value.natBelow? UInt64.size).map UInt64.ofNat

def uint8? (value : Yaml) : Option UInt8 := (value.natBelow? UInt8.size).map UInt8.ofNat

def namedFloats : List (String × Float) :=
  [(".inf", 1.0 / 0.0), (".Inf", 1.0 / 0.0), (".INF", 1.0 / 0.0),
    ("+.inf", 1.0 / 0.0), ("+.Inf", 1.0 / 0.0), ("+.INF", 1.0 / 0.0),
    ("-.inf", -1.0 / 0.0), ("-.Inf", -1.0 / 0.0), ("-.INF", -1.0 / 0.0),
    (".nan", 0.0 / 0.0), (".NaN", 0.0 / 0.0), (".NAN", 0.0 / 0.0)]

def float? : Yaml → Option Float
  | .scalar text true =>
      match namedFloats.lookup text with
      | some value => some value
      | none => (Decimal.float? text).filter Float.isFinite
  | _ => none

/-- Whether a value stands for nothing, where something may be left out. -/
def isNull : Yaml → Bool
  | .scalar text true => ["", "~", "null", "Null", "NULL"].contains text
  | _ => false

def nullable? {α : Type} (decode : Yaml → Option α) (value : Yaml) : Option (Option α) :=
  if value.isNull then some none else (decode value).map some

def isAbsent : Yaml → Bool
  | .scalar "" true => true
  | _ => false

def list? {α : Type} (decode : Yaml → Option α) (value : Yaml) : Option (List α) :=
  match value with
  | .sequence items => items.mapM decode
  | value => if value.isAbsent then some [] else none

def case? {α : Type} (cases : List (String × α)) (value : Yaml) : Option α :=
  value.string?.bind fun name => cases.lookup name

structure Record where
  fields : List (String × Yaml)

/-- Sorts the members of a mapping under the field names of a record. -/
def record? (names : List String) (value : Yaml) : Option Record :=
  match value with
  | .mapping members =>
      let known := members.filter fun member => names.contains member.1
      if names.all fun name => (known.filter (·.1 = name)).length ≤ 1 then some ⟨known⟩ else none
  | value => if value.isAbsent then some ⟨[]⟩ else none

namespace Record

def required? {α : Type} (record : Record) (name : String) (decode : Yaml → Option α) :
    Option α :=
  (record.fields.lookup name).bind decode

def defaulted? {α : Type} (record : Record) (name : String) (missing : α)
    (decode : Yaml → Option α) : Option α :=
  match record.fields.lookup name with
  | some value => decode value
  | none => some missing

/-- A field that may be missing or stand for nothing. -/
def optional? {α : Type} (record : Record) (name : String) (decode : Yaml → Option α) :
    Option (Option α) :=
  record.defaulted? name none (nullable? decode)

end Record

end GpuSharing.Yaml
