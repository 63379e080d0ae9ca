/-!
# Places in YAML text

A cursor knows its line and column, because indentation carries structure. Between
tokens stand blanks, line breaks and comments; a tab is no indentation.
-/

set_option autoImplicit false

namespace GpuSharing.Yaml

def isSpace (c : Char) : Bool := c = ' ' || c = '\t'

def isBreak (c : Char) : Bool :=
  c = '\n' || c = '\r' || c = '\x85' || c = '\u2028' || c = '\u2029'

/-- The marks that may stand at the start of a text or a line without being read. -/
def isByteOrderMark (c : Char) : Bool := c = '\uFEFF'

def isPrintable (c : Char) : Bool :=
  c = '\t' || c = '\n' || c = '\r' || (0x20 ≤ c.toNat && c.toNat ≤ 0x7E) || c = '\x85' ||
    (0xA0 ≤ c.toNat && c.toNat ≤ 0xFFFD) || 0x10000 ≤ c.toNat

/-- Whether a word ends before these characters. -/
def endsWord : List Char → Bool
  | [] => true
  | c :: _ => isSpace c || isBreak c

structure Cursor where
  line : Nat := 0
  column : Nat := 0
  /-- Whether a block collection may start here: nothing but indentation and entry
  marks stands before it on the line. -/
  fresh : Bool := true
  rest : List Char
  deriving DecidableEq, Repr

namespace Cursor

/-- Goes on by some characters of the line. -/
def advance (cursor : Cursor) (count : Nat) : Cursor :=
  { cursor with column := cursor.column + count, rest := cursor.rest.drop count }

/-- The cursor after a token, where nothing can start on the same line. -/
def stale (cursor : Cursor) : Cursor := { cursor with fresh := false }

def isAtMark (cursor : Cursor) (mark : Char) : Bool :=
  match cursor.rest with
  | c :: rest => c = mark && endsWord rest
  | [] => false

/-- Whether three characters at the start of a line mark the bounds of a document. -/
def isAtBound (cursor : Cursor) (bound : List Char) : Bool :=
  cursor.column = 0 && bound.isPrefixOf cursor.rest && endsWord (cursor.rest.drop bound.length)

def startMark : List Char := ['-', '-', '-']
def endMark : List Char := ['.', '.', '.']

def isAtEnd (cursor : Cursor) : Bool :=
  cursor.rest.isEmpty || cursor.isAtBound startMark || cursor.isAtBound endMark

end Cursor

/-- Skips what stands between tokens. -/
def gapFrom (flow comment : Bool) (line column : Nat) (fresh : Bool) : List Char → Cursor
  | [] => { line, column, fresh, rest := [] }
  | c :: rest =>
      if isBreak c then gapFrom flow false (line + 1) 0 (fresh || !flow) rest
      else if comment then gapFrom flow true line (column + 1) fresh rest
      else if c = ' ' || (c = '\t' && (flow || !fresh)) then
        gapFrom flow false line (column + 1) fresh rest
      else if c = '#' then gapFrom flow true line (column + 1) fresh rest
      else if isByteOrderMark c && column = 0 then gapFrom flow false line column fresh rest
      else { line, column, fresh, rest := c :: rest }

def Cursor.skipGap (cursor : Cursor) (flow : Bool) : Cursor :=
  gapFrom flow false cursor.line cursor.column cursor.fresh cursor.rest

end GpuSharing.Yaml
