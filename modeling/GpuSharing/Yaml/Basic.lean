/-!
# YAML values

The values that inventories are written as. Scalars keep their text; what a plain one
stands for depends on what is expected in its place.
-/

set_option autoImplicit false

namespace GpuSharing

inductive Yaml where
  | scalar (text : String) (plain : Bool)
  | sequence (items : List Yaml)
  /-- Members keep the order and the repetitions of the text. -/
  | mapping (members : List (String × Yaml))
  deriving Repr, Inhabited

namespace Yaml

/-- What stands where nothing is written. -/
def absent : Yaml := .scalar "" true

end Yaml

end GpuSharing
