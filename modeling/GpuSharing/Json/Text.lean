import GpuSharing.Decimal.Reader

/-!
# Strings in JSON text

Writing escapes quotes, backslashes and control characters, and nothing else.
Reading knows all escapes; half of a surrogate pair stands for no character.
-/

set_option autoImplicit false

namespace GpuSharing.Json

def hexDigit (value : Nat) : Char :=
  if value < 10 then Char.ofNat ('0'.toNat + value) else Char.ofNat ('a'.toNat + value - 10)

def escape (c : Char) : List Char :=
  if c = '"' then ['\\', '"']
  else if c = '\\' then ['\\', '\\']
  else if c = '\n' then ['\\', 'n']
  else if c = '\r' then ['\\', 'r']
  else if c = '\t' then ['\\', 't']
  else if c = '\x08' then ['\\', 'b']
  else if c = '\x0c' then ['\\', 'f']
  else if c.toNat < 0x20 then
    ['\\', 'u', '0', '0', hexDigit (c.toNat / 16), hexDigit (c.toNat % 16)]
  else [c]

def quoted (text : String) : List Char :=
  '"' :: text.toList.flatMap escape ++ ['"']

def shortEscape? (c : Char) : Option Char :=
  if c = '"' ∨ c = '\\' ∨ c = '/' then some c
  else if c = 'n' then some '\n'
  else if c = 'r' then some '\r'
  else if c = 't' then some '\t'
  else if c = 'b' then some '\x08'
  else if c = 'f' then some '\x0c'
  else none

def codeUnit? (a b c d : Char) : Option Nat := do
  let a ← Decimal.digitIn? 16 a
  let b ← Decimal.digitIn? 16 b
  let c ← Decimal.digitIn? 16 c
  let d ← Decimal.digitIn? 16 d
  pure (((a * 16 + b) * 16 + c) * 16 + d)

def isLeadUnit (unit : Nat) : Bool := 0xD800 ≤ unit && unit < 0xDC00
def isTrailUnit (unit : Nat) : Bool := 0xDC00 ≤ unit && unit < 0xE000

/-- The character that a lead and a trail unit encode together. -/
def pairedChar (lead trail : Nat) : Char :=
  Char.ofNat (0x10000 + (lead - 0xD800) * 0x400 + (trail - 0xDC00))

/-- What a string is spelled with: characters, and code units that are no
characters on their own. -/
inductive Piece where
  | char (value : Char)
  | unit (value : Nat)
  deriving DecidableEq, Repr

def Piece.ofUnit (unit : Nat) : Piece :=
  if isLeadUnit unit || isTrailUnit unit then .unit unit else .char (Char.ofNat unit)

def pieces? : List Char → Option (List Piece × List Char)
  | [] => none
  | '"' :: rest => some ([], rest)
  | '\\' :: 'u' :: a :: b :: c :: d :: rest => do
      let unit ← codeUnit? a b c d
      let (pieces, rest) ← pieces? rest
      pure (.ofUnit unit :: pieces, rest)
  | '\\' :: c :: rest => do
      let char ← shortEscape? c
      let (pieces, rest) ← pieces? rest
      pure (.char char :: pieces, rest)
  | c :: rest =>
      if c.toNat < 0x20 then none
      else (pieces? rest).map fun (pieces, rest) => (.char c :: pieces, rest)

def Piece.chars? : List Piece → Option (List Char)
  | [] => some []
  | .char c :: rest => (chars? rest).map (c :: ·)
  | .unit lead :: .unit trail :: rest =>
      if isLeadUnit lead && isTrailUnit trail then
        (chars? rest).map (pairedChar lead trail :: ·)
      else none
  | .unit _ :: _ => none

/-- Reads the rest of a string. The result is its content, if it has one, and the
text after the closing quote. -/
def stringBody? (chars : List Char) : Option (Option String × List Char) :=
  (pieces? chars).map fun (pieces, rest) => ((Piece.chars? pieces).map String.ofList, rest)

end GpuSharing.Json
