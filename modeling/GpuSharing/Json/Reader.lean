import GpuSharing.Json.Number
import GpuSharing.Json.Text

/-!
# Reading JSON text

A text is one value with blanks around it. Each step reads a value and returns the
text after it; the depth of recursion is bounded by the length of the text.
-/

set_option autoImplicit false

namespace GpuSharing.Json

def isGap (c : Char) : Bool := c = ' ' || c = '\n' || c = '\t' || c = '\r'

def skipGap (chars : List Char) : List Char := chars.dropWhile isGap

def afterWord? (word : String) (chars : List Char) : Option (List Char) :=
  if word.toList.isPrefixOf chars then some (chars.drop word.length) else none

mutual

def value? (fuel : Nat) (chars : List Char) : Option (Json × List Char) :=
  match fuel with
  | 0 => none
  | fuel + 1 =>
      match chars with
      | '{' :: rest =>
          match skipGap rest with
          | '}' :: rest => some (.object [], rest)
          | rest => (membersFrom? fuel rest).map fun (members, rest) =>
              (match members with
                | some members => .object members
                | none => .unreadable, rest)
      | '[' :: rest =>
          match skipGap rest with
          | ']' :: rest => some (.array [], rest)
          | rest => (itemsFrom? fuel rest).map fun (items, rest) => (.array items, rest)
      | '"' :: rest =>
          (stringBody? rest).map fun (content, rest) =>
            (match content with
              | some text => .string text
              | none => .unreadable, rest)
      | 'n' :: _ => (afterWord? "null" chars).map fun rest => (.null, rest)
      | 't' :: _ => (afterWord? "true" chars).map fun rest => (.bool true, rest)
      | 'f' :: _ => (afterWord? "false" chars).map fun rest => (.bool false, rest)
      | _ => (numberText? chars).map fun (text, rest) => (text.value, rest)

def itemsFrom? (fuel : Nat) (chars : List Char) : Option (List Json × List Char) :=
  match fuel with
  | 0 => none
  | fuel + 1 =>
      match value? fuel chars with
      | none => none
      | some (item, rest) =>
          match skipGap rest with
          | ',' :: rest => (itemsFrom? fuel (skipGap rest)).map fun (items, rest) => (item :: items, rest)
          | ']' :: rest => some ([item], rest)
          | _ => none

/-- The members of an object from the first name on, with the closing brace. There
are no members if a name stands for no text. -/
def membersFrom? (fuel : Nat) (chars : List Char) :
    Option (Option (List (String × Json)) × List Char) :=
  match fuel with
  | 0 => none
  | fuel + 1 =>
      match chars with
      | '"' :: rest =>
          match stringBody? rest with
          | none => none
          | some (name, rest) =>
              match skipGap rest with
              | ':' :: rest =>
                  match value? fuel (skipGap rest) with
                  | none => none
                  | some (value, rest) =>
                      match skipGap rest with
                      | ',' :: rest =>
                          (membersFrom? fuel (skipGap rest)).map fun (members, rest) =>
                            (do pure ((← name, value) :: (← members)), rest)
                      | '}' :: rest => some (name.map fun name => [(name, value)], rest)
                      | _ => none
              | _ => none
      | _ => none

end

def parse? (text : String) : Option Json := do
  let chars := text.toList
  let (value, rest) ← value? (chars.length + 1) (skipGap chars)
  guard (skipGap rest).isEmpty
  pure value

end GpuSharing.Json
