/-!
# JSON values

The values that reports and stored records are made of. Members keep the order and
the repetitions of the text they were read from.
-/

set_option autoImplicit false

namespace GpuSharing

inductive Json where
  | null
  | bool (value : Bool)
  | integer (value : Int)
  | float (value : Float)
  | string (value : String)
  | array (items : List Json)
  | object (members : List (String × Json))
  /-- Well-formed text that stands for no value: half of a surrogate pair, or a
  number beyond the range of doubles. It may be skipped but not used. -/
  | unreadable
  deriving Repr, Inhabited

namespace Json

def ofNat (value : Nat) : Json := .integer value

def ofUInt64 (value : UInt64) : Json := .integer value.toNat

def ofFloat (value : Float) : Json :=
  if value.isFinite then .float value else .null

def ofOption {α : Type} (encode : α → Json) : Option α → Json
  | none => .null
  | some value => encode value

def ofList {α : Type} (encode : α → Json) (values : List α) : Json :=
  .array (values.map encode)

mutual

/-- Whether every part of the value can be used. -/
def isReadable : Json → Bool
  | .unreadable => false
  | .array items => allReadable items
  | .object members => membersReadable members
  | _ => true

def allReadable : List Json → Bool
  | [] => true
  | item :: rest => item.isReadable && allReadable rest

def membersReadable : List (String × Json) → Bool
  | [] => true
  | (_, value) :: rest => value.isReadable && membersReadable rest

end

mutual

def depth : Json → Nat
  | .array items => itemsDepth items + 1
  | .object members => membersDepth members + 1
  | _ => 0

def itemsDepth : List Json → Nat
  | [] => 0
  | item :: rest => max item.depth (itemsDepth rest)

def membersDepth : List (String × Json) → Nat
  | [] => 0
  | (_, value) :: rest => max value.depth (membersDepth rest)

end

/-- The value of a name, where a repeated name has its last value. -/
def lastMember? (members : List (String × Json)) (name : String) : Option Json :=
  (members.reverse.find? (·.1 = name)).map (·.2)

end Json

end GpuSharing
