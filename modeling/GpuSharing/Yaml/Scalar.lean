import GpuSharing.Decimal.Reader
import GpuSharing.Yaml.Cursor

/-!
# Scalars in YAML text

Plain scalars end where the context needs them to end; quoted ones at their quote.
Lines of a scalar are folded: a single break becomes a space, and of several breaks
the first is dropped.
-/

set_option autoImplicit false

namespace GpuSharing.Yaml

/-- What stands between two characters of a scalar that count. -/
inductive Gap where
  /-- Blanks of one line, the last one first. -/
  | blanks (chars : List Char)
  /-- Line breaks, with the blanks around them. -/
  | breaks (chars : List Char)
  /-- A line break that was escaped, and the breaks after it. -/
  | escaped (chars : List Char)
  deriving DecidableEq, Repr

namespace Gap

def none : Gap := blanks []

def isNone : Gap → Bool
  | blanks chars => chars.isEmpty
  | _ => false

def addSpace (c : Char) : Gap → Gap
  | blanks chars => blanks (c :: chars)
  | gap => gap

def addBreak (c : Char) : Gap → Gap
  | blanks _ => breaks [c]
  | breaks chars => breaks (chars ++ [c])
  | escaped chars => escaped (chars ++ [c])

def chars : Gap → List Char
  | blanks chars => chars.reverse
  | breaks ['\n'] => [' ']
  | breaks ('\n' :: rest) => rest
  | breaks chars => chars
  | escaped chars => chars

end Gap

/-- All breaks are written alike, but for the two that separate lines and paragraphs. -/
def breakChar (c : Char) : Char := if c = '\r' || c = '\x85' then '\n' else c

/-- Adds what a gap stands for, and a character, to a text in reverse. -/
def extend (text : List Char) (gap : Gap) (c : Char) : List Char := c :: (gap.chars.reverse ++ text)

def isFlowMark (c : Char) : Bool := c = ',' || c = '[' || c = ']' || c = '{' || c = '}'

/-- Whether a plain scalar can start with a character that others follow. -/
def startsPlain (flow : Bool) (c : Char) (rest : List Char) : Bool :=
  if c = '-' then !rest.head?.any isSpace
  else if c = '?' || c = ':' then !flow && !endsWord rest
  else !isSpace c && !isBreak c && !isFlowMark c && !"#&*!|>'\"%@`".toList.contains c

/-- Reads on in a plain scalar. `text` is what counts so far in reverse, `after` the
place behind it, and `here` the place that has been reached. -/
def plainFrom (flow : Bool) (level : Nat) (text : List Char) (after : Cursor) (gap : Gap)
    (here : Cursor) : List Char → Option (String × Cursor)
  | [] => some (String.ofList text.reverse, after)
  | '\r' :: '\n' :: rest =>
      plainFrom flow level text after (gap.addBreak '\n')
        { here with line := here.line + 1, column := 0 } rest
  | c :: rest =>
      let next := { here with column := here.column + 1 }
      let starts := text.isEmpty || !gap.isNone
      let behindBreak := gap matches .breaks _
      let place := { here with rest := c :: rest }
      if isBreak c then
        plainFrom flow level text after (gap.addBreak (breakChar c))
          { here with line := here.line + 1, column := 0 } rest
      else if isSpace c then
        if behindBreak && here.column < level && c = '\t' then none
        else plainFrom flow level text after (gap.addSpace c) next rest
      else if behindBreak && !flow && here.column < level then some (String.ofList text.reverse, after)
      else if starts && (place.isAtEnd || c = '#') then some (String.ofList text.reverse, after)
      else if c = ':' && endsWord rest then some (String.ofList text.reverse, after)
      else if flow && c = ':' && rest.head?.any (fun c => isFlowMark c || c = '?') then none
      else if flow && isFlowMark c then some (String.ofList text.reverse, after)
      else plainFrom flow level (extend text gap c) { next with rest } .none next rest

def plain? (flow : Bool) (level : Nat) (cursor : Cursor) : Option (String × Cursor) :=
  plainFrom flow level [] cursor .none cursor cursor.rest

def shortEscape? (c : Char) : Option Char :=
  [('0', '\x00'), ('a', '\x07'), ('b', '\x08'), ('t', '\t'), ('\t', '\t'), ('n', '\n'),
    ('v', '\x0b'), ('f', '\x0c'), ('r', '\r'), ('e', '\x1b'), (' ', ' '), ('"', '"'),
    ('/', '/'), ('\\', '\\'), ('N', '\x85'), ('_', '\xa0'), ('L', '\u2028'),
    ('P', '\u2029')].lookup c

def escapeLength? (c : Char) : Option Nat := [('x', 2), ('u', 4), ('U', 8)].lookup c

/-- The character of a numeric escape, which stands for no half of a pair. -/
def numericEscape? (digits : List Char) : Option Char := do
  let value ← (digits.mapM (Decimal.digitIn? 16)).map fun values =>
    values.foldl (fun value digit => 16 * value + digit) 0
  if value.isValidChar then some (Char.ofNat value) else none

def quotedFrom (quote : Char) (text : List Char) (gap : Gap) (here : Cursor) :
    List Char → Option (String × Cursor)
  | [] => none
  | '\r' :: '\n' :: rest =>
      quotedFrom quote text (gap.addBreak '\n') { here with line := here.line + 1, column := 0 } rest
  | c :: rest =>
      let next := { here with column := here.column + 1 }
      let skip (count : Nat) := { here with column := here.column + count }
      let newLine := { here with line := here.line + 1, column := 0 }
      if isBreak c then quotedFrom quote text (gap.addBreak (breakChar c)) newLine rest
      else if isSpace c then quotedFrom quote text (gap.addSpace c) next rest
      else if { here with rest := c :: rest }.isAtEnd then none
      else
        match rest with
        | d :: rest =>
            if c = quote && quote = '\'' && d = '\'' then
              quotedFrom quote (extend text gap c) .none (skip 2) rest
            else if c = quote then closed text gap { next with rest := d :: rest }
            else if c = '\\' && quote = '"' then
              if isBreak d then
                let text := gap.chars.reverse ++ text
                match d, rest with
                | '\r', '\n' :: rest => quotedFrom quote text (.escaped []) newLine rest
                | _, rest => quotedFrom quote text (.escaped []) newLine rest
              else
                match shortEscape? d, escapeLength? d with
                | some d, _ => quotedFrom quote (extend text gap d) .none (skip 2) rest
                | none, some length =>
                    if rest.length < length then none
                    else (numericEscape? (rest.take length)).bind fun d =>
                      quotedFrom quote (extend text gap d) .none (skip (2 + length)) (rest.drop length)
                | none, none => none
            else quotedFrom quote (extend text gap c) .none next (d :: rest)
        | [] => if c = quote then closed text gap { next with rest := [] } else none
  termination_by chars => chars.length
  decreasing_by all_goals (simp only [List.length_cons, List.length_drop]; omega)
where
  closed (text : List Char) (gap : Gap) (after : Cursor) : Option (String × Cursor) :=
    some (String.ofList (gap.chars.reverse ++ text).reverse, after)

def quoted? (quote : Char) (cursor : Cursor) : Option (String × Cursor) :=
  quotedFrom quote [] .none cursor cursor.rest

end GpuSharing.Yaml
