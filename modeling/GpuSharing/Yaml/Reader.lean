import GpuSharing.Yaml.Basic
import GpuSharing.Yaml.Scalar

/-!
# Reading YAML text

One document of block and flow collections with plain and quoted scalars. Keys are
scalars on one line; there are no anchors, tags, directives or block scalars. Every
reader returns the place after what it read, behind the gap that follows.

In block context `level` is the least column of a scalar's further lines, one more
than the column of the collection around it.
-/

set_option autoImplicit false

namespace GpuSharing.Yaml

def scalar? (flow : Bool) (level : Nat) (cursor : Cursor) : Option (Yaml × Cursor) :=
  match cursor.rest with
  | [] => none
  | c :: rest =>
      if cursor.isAtEnd then none
      else if c = '"' || c = '\'' then
        (quoted? c (cursor.advance 1)).map fun (text, after) => (.scalar text false, after)
      else if startsPlain flow c rest then
        (plain? flow level cursor).map fun (text, after) => (.scalar text true, after)
      else none

/-- The key that a node stands for, if it is a scalar written on one line. -/
def key? (start after : Cursor) : Yaml → Option String
  | .scalar text _ => if start.line = after.line then some text else none
  | _ => none

/-- Goes behind a mark if it comes next. -/
def afterMark? (mark : Char) (cursor : Cursor) : Option Cursor :=
  if cursor.rest.head? = some mark then some ((cursor.advance 1).skipGap true) else none

mutual

def flowNode? (fuel level : Nat) (cursor : Cursor) : Option (Yaml × Cursor) :=
  match fuel with
  | 0 => none
  | fuel + 1 =>
      let collection : Option (Yaml × Cursor) :=
        match afterMark? '[' cursor with
        | some inside =>
            (flowItems? fuel level inside).map fun (items, after) => (.sequence items, after)
        | none =>
            match afterMark? '{' cursor with
            | some inside =>
                (flowMembers? fuel level inside).map fun (members, after) =>
                  (.mapping members, after)
            | none => scalar? true level cursor
      if cursor.isAtEnd then none else collection

/-- A node in a flow collection with the value behind it, if a colon comes next. -/
def flowPair? (fuel level : Nat) (cursor : Cursor) :
    Option (Yaml × Option Yaml × Cursor) :=
  match fuel with
  | 0 => none
  | fuel + 1 => do
      let (node, after) ← flowNode? fuel level cursor
      let next := after.skipGap true
      match afterMark? ':' next with
      | none => pure (node, none, next)
      | some inside =>
          if next.line ≠ cursor.line then none
          else if inside.rest.head?.any fun c => c = ',' || c = ']' || c = '}' then
            pure (node, some absent, inside)
          else do
            let (value, after) ← flowNode? fuel level inside
            pure (node, some value, after.skipGap true)

/-- The items of a flow sequence, and the place behind its bracket. An item may be a
mapping of one member without braces. -/
def flowItems? (fuel level : Nat) (cursor : Cursor) : Option (List Yaml × Cursor) :=
  match fuel with
  | 0 => none
  | fuel + 1 =>
      if cursor.rest.head? = some ']' then some ([], cursor.advance 1)
      else do
        let (node, value, next) ← flowPair? fuel level cursor
        let item ← match value with
          | none => some node
          | some value => (key? cursor cursor node).map fun key => .mapping [(key, value)]
        match afterMark? ',' next with
        | some inside => do
            let (items, after) ← flowItems? fuel level inside
            pure (item :: items, after)
        | none => if next.rest.head? = some ']' then pure ([item], next.advance 1) else none

def flowMembers? (fuel level : Nat) (cursor : Cursor) :
    Option (List (String × Yaml) × Cursor) :=
  match fuel with
  | 0 => none
  | fuel + 1 =>
      if cursor.rest.head? = some '}' then some ([], cursor.advance 1)
      else do
        let (node, value, next) ← flowPair? fuel level cursor
        let key ← key? cursor cursor node
        let member := (key, value.getD absent)
        match afterMark? ',' next with
        | some inside => do
            let (members, after) ← flowMembers? fuel level inside
            pure (member :: members, after)
        | none => if next.rest.head? = some '}' then pure ([member], next.advance 1) else none

end

/-- A node that is not a block collection, and the place behind it. -/
def inlineNode? (fuel level : Nat) (cursor : Cursor) : Option (Yaml × Cursor) :=
  match cursor.rest with
  | '[' :: _ => flowNode? fuel level cursor
  | '{' :: _ => flowNode? fuel level cursor
  | _ => scalar? false level cursor

mutual

/-- A node in block context. Block collections need a fresh place. -/
def blockNode? (fuel level : Nat) (cursor : Cursor) : Option (Yaml × Cursor) :=
  match fuel with
  | 0 => none
  | fuel + 1 =>
      if cursor.isAtMark '-' then
        if cursor.fresh then
          (blockItems? fuel cursor.column false cursor).map fun (items, next) =>
            (.sequence items, next)
        else none
      else do
        let (node, after) ← inlineNode? fuel level cursor
        let next := after.stale.skipGap false
        if next.isAtMark ':' && !next.fresh then
          if cursor.fresh then do
            let (members, next) ← blockMembers? fuel cursor.column cursor
            pure (.mapping members, next)
          else none
        else pure (node, next)

/-- What stands behind an entry mark or a colon, which belongs to a collection at a
column. Nothing is written there if the next token is not indented. -/
def blockValue? (fuel column : Nat) (mark next : Cursor) : Option (Yaml × Cursor) :=
  match fuel with
  | 0 => none
  | fuel + 1 =>
      if next.isAtEnd then some (absent, next)
      else if next.line = mark.line || column < next.column then blockNode? fuel (column + 1) next
      else some (absent, next)

/-- The items of a block sequence at a column. A sequence below a key may stand at the
column of the mapping around it, which then goes on after the sequence. -/
def blockItems? (fuel column : Nat) (inMapping : Bool) (cursor : Cursor) :
    Option (List Yaml × Cursor) :=
  match fuel with
  | 0 => none
  | fuel + 1 => do
      let next := { cursor.advance 1 with fresh := true }.skipGap false
      let (item, next) ← blockValue? fuel column cursor next
      if next.isAtEnd then pure ([item], next)
      else if !next.fresh || column < next.column then none
      else if next.column < column then pure ([item], next)
      else if next.isAtMark '-' then do
        let (items, next) ← blockItems? fuel column inMapping next
        pure (item :: items, next)
      else if inMapping then pure ([item], next)
      else none

def blockMembers? (fuel column : Nat) (cursor : Cursor) :
    Option (List (String × Yaml) × Cursor) :=
  match fuel with
  | 0 => none
  | fuel + 1 => do
      let (node, after) ← inlineNode? fuel (column + 1) cursor
      let key ← key? cursor after node
      let colon := after.stale.skipGap false
      if colon.fresh || !colon.isAtMark ':' then none
      else do
        let next := (colon.advance 1).stale.skipGap false
        let (value, next) ←
          if next.fresh && next.column = column && next.isAtMark '-' && !next.isAtEnd then
            (blockItems? fuel column true next).map fun (items, next) => (Yaml.sequence items, next)
          else blockValue? fuel column colon next
        if next.isAtEnd || next.fresh && next.column < column then pure ([(key, value)], next)
        else if next.fresh && next.column = column && !next.isAtMark '-' then do
          let (members, next) ← blockMembers? fuel column next
          pure ((key, value) :: members, next)
        else none

end

/-- Skips the marks that may follow a document. -/
def skipEndMarks (fuel : Nat) (cursor : Cursor) : Cursor :=
  match fuel with
  | 0 => cursor
  | fuel + 1 =>
      if cursor.isAtBound Cursor.endMark then
        skipEndMarks fuel ((cursor.advance Cursor.endMark.length).stale.skipGap false)
      else cursor

def document? (fuel : Nat) (cursor : Cursor) : Option (Yaml × Cursor) :=
  if cursor.isAtEnd then some (absent, cursor) else blockNode? fuel 0 cursor

/-- Reads a text of one document. A text without content stands for nothing written. -/
def parse? (text : String) : Option Yaml :=
  let chars := text.toList
  let fuel := 4 * chars.length + 4
  let start := ({ rest := chars } : Cursor).skipGap false
  let content :=
    if start.isAtBound Cursor.startMark then
      document? fuel ((start.advance Cursor.startMark.length).stale.skipGap false)
    else if start.isAtBound Cursor.endMark then none
    else document? fuel start
  match content with
  | some (value, next) =>
      if chars.all isPrintable && (skipEndMarks fuel next).rest.isEmpty then some value else none
  | none => none

end GpuSharing.Yaml
