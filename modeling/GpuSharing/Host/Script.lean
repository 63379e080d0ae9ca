import GpuSharing.Host.Tools
import GpuSharing.Text.Blank

/-!
# Scripts

The short shell scripts that isolation commands are written as: simple commands one
after another or depending on each other, with quotes and arguments. A script ends
with the status of its last command.
-/

set_option autoImplicit false

namespace GpuSharing.Script

inductive Piece where
  | text (value : Char)
  | argument (name : Char)
  /-- An argument outside quotes, which disappears when it is empty. -/
  | loose (name : Char)
  deriving DecidableEq, Repr

/-- When a command is run, after the one before it. -/
inductive Joint where
  | always
  | onSuccess
  | onFailure
  deriving DecidableEq, Repr

structure Statement where
  joint : Joint
  words : List (List Piece)
  deriving DecidableEq, Repr

/-- What has been read of a script. Words, pieces and statements are kept in reverse. -/
structure Draft where
  statements : List Statement := []
  joint : Joint := .always
  words : List (List Piece) := []
  word : Option (List Piece) := none

namespace Draft

def push (draft : Draft) (piece : Piece) : Draft :=
  { draft with word := some (piece :: draft.word.getD []) }

def openWord (draft : Draft) : Draft := { draft with word := some (draft.word.getD []) }

def closeWord (draft : Draft) : Draft :=
  match draft.word with
  | none => draft
  | some word => { draft with words := word.reverse :: draft.words, word := none }

def closeStatement (draft : Draft) (next : Joint) : Draft :=
  let draft := draft.closeWord
  match draft.words with
  | [] => { draft with joint := next }
  | words =>
      { statements := { joint := draft.joint, words := words.reverse } :: draft.statements
        joint := next }

end Draft

inductive Mode where
  | bare
  | single
  | double
  | comment
  deriving DecidableEq, Repr

def isArgumentName (c : Char) : Bool := c.isDigit || c = '#' || c = '@' || c = '*'

def read (mode : Mode) (draft : Draft) : List Char → List Statement
  | [] => (draft.closeStatement .always).statements.reverse
  | '\n' :: rest =>
      match mode with
      | .bare => read .bare (draft.closeStatement .always) rest
      | .comment => read .bare (draft.closeStatement .always) rest
      | quoted => read quoted (draft.push (.text '\n')) rest
  | '\\' :: c :: rest =>
      match mode with
      | .bare => read .bare (draft.push (.text c)) rest
      | .double => read .double (draft.push (.text c)) rest
      | .single => read .single ((draft.push (.text '\\')).push (.text c)) rest
      | .comment => read .comment draft (c :: rest)
  | '$' :: c :: rest =>
      match mode with
      | .bare =>
          if isArgumentName c then read .bare (draft.push (.loose c)) rest
          else read .bare (draft.push (.text '$')) (c :: rest)
      | .double =>
          if isArgumentName c then read .double (draft.push (.argument c)) rest
          else read .double (draft.push (.text '$')) (c :: rest)
      | .single => read .single (draft.push (.text '$')) (c :: rest)
      | .comment => read .comment draft (c :: rest)
  | '&' :: '&' :: rest =>
      match mode with
      | .bare => read .bare (draft.closeStatement .onSuccess) rest
      | .comment => read .comment draft rest
      | quoted => read quoted ((draft.push (.text '&')).push (.text '&')) rest
  | '|' :: '|' :: rest =>
      match mode with
      | .bare => read .bare (draft.closeStatement .onFailure) rest
      | .comment => read .comment draft rest
      | quoted => read quoted ((draft.push (.text '|')).push (.text '|')) rest
  | c :: rest =>
      match mode with
      | .comment => read .comment draft rest
      | .single => if c = '\'' then read .bare draft rest else read .single (draft.push (.text c)) rest
      | .double => if c = '"' then read .bare draft rest else read .double (draft.push (.text c)) rest
      | .bare =>
          if c = '\'' then read .single draft.openWord rest
          else if c = '"' then read .double draft.openWord rest
          else if c = ';' then read .bare (draft.closeStatement .always) rest
          else if c = '#' && draft.word.isNone then read .comment draft rest
          else if Text.isBlank c then read .bare draft.closeWord rest
          else read .bare (draft.push (.text c)) rest
  termination_by chars => chars.length

def argument (name : Char) (arguments : List String) : String :=
  if name = '#' then toString (arguments.length - 1)
  else if name.isDigit then (arguments[Decimal.digitValue name]?).getD ""
  else " ".intercalate arguments.tail

def expand (arguments : List String) (word : List Piece) : List String :=
  match word with
  | [.loose name] => Text.words (argument name arguments)
  | pieces =>
      [String.join (pieces.map fun
        | .text c => c.toString
        | .argument name => argument name arguments
        | .loose name => argument name arguments)]

def statusCount : Nat := 256

def Joint.admits (joint : Joint) (status : Nat) : Bool :=
  match joint with
  | .always => true
  | .onSuccess => status = 0
  | .onFailure => status ≠ 0

/-- Runs statements. `status` is that of the last command. -/
def run (files : FileTree) (arguments : List String) (status : Nat) : List Statement → CommandEnd
  | [] => .exited status "" ""
  | statement :: rest =>
      if !statement.joint.admits status then run files arguments status rest
      else
        match statement.words.flatMap (expand arguments) with
        | [] => run files arguments 0 rest
        | ["exit"] => .exited status "" ""
        | "exit" :: value :: _ => .exited ((Decimal.natIn? 10 value.toList).getD 2 % statusCount) "" ""
        | ":" :: _ => run files arguments 0 rest
        | "exec" :: words => (Tools.run? files words).getD (.exited 127 "" "")
        | words =>
            match Tools.run? files words with
            | some (.exited status _ _) => run files arguments status rest
            | some ending => ending
            | none => run files arguments 127 rest

def runText (files : FileTree) (text : String) (arguments : List String) : CommandEnd :=
  run files arguments 0 (read .bare {} text.toList)

end GpuSharing.Script
