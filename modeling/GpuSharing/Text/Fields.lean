/-!
# Separated fields

Texts that are split at every occurrence of a separator, such as lists of names and
paths. There is always one field more than there are separators.
-/

set_option autoImplicit false

namespace GpuSharing.Text

/-- Splits off one field after another; `field` holds the open field in reverse. -/
def fieldsFrom (separator : Char) (field : List Char) : List Char → List (List Char)
  | [] => [field.reverse]
  | c :: rest =>
      if c = separator then field.reverse :: fieldsFrom separator [] rest
      else fieldsFrom separator (c :: field) rest

def fields (separator : Char) (text : String) : List String :=
  (fieldsFrom separator [] text.toList).map String.ofList

end GpuSharing.Text
