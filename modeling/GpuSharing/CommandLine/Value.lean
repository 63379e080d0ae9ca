import GpuSharing.CommandLine.Grammar
import GpuSharing.Decimal.Reader
import GpuSharing.Isolation.Kind
import GpuSharing.Reservation.Basic
import GpuSharing.Text.Fields

/-!
# Values of settings

How the text of a setting is read: choices and paths, numbers, and the names of
policies and isolation types.
-/

set_option autoImplicit false

namespace GpuSharing.Setting

def choice {α : Type} (cases : List (String × α)) (text : String) :
    Except CommandLineError α :=
  match cases.lookup text with
  | some value => .ok value
  | none => .error .invalidValue

def bool : String → Except CommandLineError Bool := choice [("true", true), ("false", false)]

def path (text : String) : Except CommandLineError String :=
  if text = "" then .error .invalidValue else .ok text

def anyText (text : String) : Except CommandLineError String := .ok text

def wellFormed {α : Type} (value : Option α) : Except CommandLineError α :=
  match value with
  | some value => .ok value
  | none => .error .malformedValue

def word (text : String) : Except CommandLineError Nat :=
  wellFormed (Decimal.natBelow? UInt64.size text)

def halfWord (text : String) : Except CommandLineError Nat :=
  match text.toList with
  | '-' :: digits =>
      if digits.isEmpty || digits.any (· ≠ '0') then .error .malformedValue else .ok 0
  | _ => wellFormed (Decimal.natBelow? UInt32.size text)

def float (text : String) : Except CommandLineError Float := wellFormed (Decimal.float? text)

def conflictPolicy (text : String) : Except CommandLineError ConflictPolicy :=
  wellFormed (ConflictPolicy.ofText text).toOption

def isolationTypes (text : String) : Except CommandLineError (List IsolationType) :=
  wellFormed ((Text.fields ',' text).mapM fun name => (IsolationType.ofText name).toOption)

end GpuSharing.Setting
