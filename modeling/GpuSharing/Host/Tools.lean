import GpuSharing.Decimal.Reader
import GpuSharing.Host.FileTree

/-!
# Standard tools

What the small tools that every host has do with their arguments: the constant ones,
the comparison of texts and numbers, and the pause.
-/

set_option autoImplicit false

namespace GpuSharing.Tools

def int? (text : String) : Option Int :=
  match text.toList with
  | '-' :: digits => (Decimal.natIn? 10 digits).map fun value => -(value : Int)
  | digits => (Decimal.natIn? 10 digits).map Int.ofNat

/-- The statuses of a test. The last one is for tests that make no sense. -/
inductive Verdict where
  | yes
  | no
  | senseless
  deriving DecidableEq, Repr

namespace Verdict

def ofBool (value : Bool) : Verdict := if value then yes else no

def negate : Verdict → Verdict
  | yes => no
  | no => yes
  | senseless => senseless

def status : Verdict → Nat
  | yes => 0
  | no => 1
  | senseless => 2

end Verdict

def compare (a b : String) (holds : Int → Int → Bool) : Verdict :=
  match int? a, int? b with
  | some a, some b => .ofBool (holds a b)
  | _, _ => .senseless

def testOne (files : FileTree) (operator operand : String) : Verdict :=
  let node : Option FileTree := (files.resolve operand).toOption.map (·.node)
  match operator with
  | "-n" => .ofBool (operand ≠ "")
  | "-z" => .ofBool (operand = "")
  | "-e" => .ofBool node.isSome
  | "-d" => .ofBool (node.any FileTree.isDirectory)
  | "-f" => .ofBool (node.any (!·.isDirectory))
  | _ => .senseless

def testTwo (a operator b : String) : Verdict :=
  match operator with
  | "=" => .ofBool (a = b)
  | "!=" => .ofBool (a ≠ b)
  | "-eq" => compare a b fun a b => a = b
  | "-ne" => compare a b fun a b => a ≠ b
  | "-lt" => compare a b fun a b => a < b
  | "-le" => compare a b fun a b => a ≤ b
  | "-gt" => compare a b fun a b => a > b
  | "-ge" => compare a b fun a b => a ≥ b
  | _ => .senseless

def test (files : FileTree) : List String → Verdict
  | [] => .no
  | [a] => .ofBool (a ≠ "")
  | ["!", a] => .ofBool (a = "")
  | [operator, a] => testOne files operator a
  | ["!", operator, a] =>
      match testTwo "!" operator a with
      | .senseless => (testOne files operator a).negate
      | verdict => verdict
  | [a, operator, b] => testTwo a operator b
  | ["!", a, operator, b] => (testTwo a operator b).negate
  | _ => .senseless

def run? (files : FileTree) : List String → Option CommandEnd
  | "true" :: _ => some .succeeded
  | "false" :: _ => some .failed
  | "echo" :: words => some (.exited 0 (" ".intercalate words ++ "\n") "")
  | "test" :: words => some (.exited (test files words).status "" "")
  | "[" :: words =>
      if words.getLast? = some "]" then some (.exited (test files words.dropLast).status "" "")
      else some (.exited 2 "" "")
  | ["sleep", seconds] =>
      match Decimal.float? seconds with
      | some value => some (if 0.0 < value then .hung else .succeeded)
      | none => some .failed
  | "sleep" :: _ => some .failed
  | _ => none

end GpuSharing.Tools
