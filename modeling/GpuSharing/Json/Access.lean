import GpuSharing.Json.Codec

/-!
# Looking into objects

Look-ups of single members in objects whose members may be left out. A member that
is null counts as left out, and the last of repeated members counts.
-/

set_option autoImplicit false

namespace GpuSharing.Json

def member? (json : Json) (name : String) : Option Json :=
  match json with
  | .object members =>
      match lastMember? members name with
      | some .null => none
      | found => found
  | _ => none

/-- A member that may be left out. -/
def get? {α : Type} [OfJson α] (json : Json) (name : String) : Option α :=
  (json.member? name).bind OfJson.ofJson?

/-- A member with a value of its own when it is left out. -/
def get {α : Type} [OfJson α] (json : Json) (name : String) (missing : α) : α :=
  (json.get? name).getD missing

def part (json : Json) (name : String) : Json := (json.member? name).getD (.object [])

def items (json : Json) (name : String) : List Json :=
  match json.member? name with
  | some (.array items) => items
  | _ => []

def members (json : Json) (name : String) : List (String × Json) :=
  match json.member? name with
  | some (.object members) => members
  | _ => []

end GpuSharing.Json
