import GpuSharing.Decimal.Layout
import GpuSharing.Json.Basic
import GpuSharing.Json.Text

/-!
# Writing JSON text

The compact form has no blanks; the pretty form puts every item on a line of its
own, indented by two blanks a level. Members are written in their order.
-/

set_option autoImplicit false

namespace GpuSharing.Json

/-- A value without parts. An unreadable one has no text of its own. -/
def leafText : Json → List Char
  | .null | .unreadable => "null".toList
  | .bool true => "true".toList
  | .bool false => "false".toList
  | .integer value => (toString value).toList
  | .float value => (Decimal.Layout.report.render value).toList
  | .string value => quoted value
  | .array _ => []
  | .object _ => []

mutual

def compactText : Json → List Char
  | .array items => '[' :: itemsText items ++ [']']
  | .object members => '{' :: membersText members ++ ['}']
  | leaf => leafText leaf

def itemsText : List Json → List Char
  | [] => []
  | [item] => item.compactText
  | item :: next :: rest => item.compactText ++ ',' :: itemsText (next :: rest)

def membersText : List (String × Json) → List Char
  | [] => []
  | [(name, value)] => quoted name ++ ':' :: value.compactText
  | (name, value) :: next :: rest =>
      quoted name ++ ':' :: value.compactText ++ ',' :: membersText (next :: rest)

end

def compact (json : Json) : String := String.ofList json.compactText

def newLine (level : Nat) : List Char := '\n' :: List.replicate (2 * level) ' '

mutual

def prettyText (level : Nat) : Json → List Char
  | .array [] => ['[', ']']
  | .object [] => ['{', '}']
  | .array (item :: rest) =>
      '[' :: prettyItems (level + 1) (item :: rest) ++ newLine level ++ [']']
  | .object (member :: rest) =>
      '{' :: prettyMembers (level + 1) (member :: rest) ++ newLine level ++ ['}']
  | leaf => leafText leaf

def prettyItems (level : Nat) : List Json → List Char
  | [] => []
  | [item] => newLine level ++ item.prettyText level
  | item :: next :: rest =>
      newLine level ++ item.prettyText level ++ ',' :: prettyItems level (next :: rest)

def prettyMembers (level : Nat) : List (String × Json) → List Char
  | [] => []
  | [(name, value)] => newLine level ++ quoted name ++ ':' :: ' ' :: value.prettyText level
  | (name, value) :: next :: rest =>
      newLine level ++ quoted name ++ ':' :: ' ' :: value.prettyText level ++
        ',' :: prettyMembers level (next :: rest)

end

def pretty (json : Json) : String := String.ofList (json.prettyText 0)

end GpuSharing.Json
