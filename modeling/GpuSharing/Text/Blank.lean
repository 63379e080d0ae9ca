/-!
# Blank characters

The characters that count as white space when node input is trimmed or split,
and the trimming and splitting built on them.
-/

set_option autoImplicit false

namespace GpuSharing.Text

/-- The code point ranges that the Unicode property `White_Space` holds for. -/
def blankRanges : List (Nat × Nat) :=
  [(0x09, 0x0D), (0x20, 0x20), (0x85, 0x85), (0xA0, 0xA0), (0x1680, 0x1680),
    (0x2000, 0x200A), (0x2028, 0x2029), (0x202F, 0x202F), (0x205F, 0x205F), (0x3000, 0x3000)]

def isBlank (c : Char) : Bool :=
  blankRanges.any fun range => range.1 ≤ c.toNat && c.toNat ≤ range.2

def trimStartChars (chars : List Char) : List Char :=
  chars.dropWhile isBlank

def trimChars (chars : List Char) : List Char :=
  (trimStartChars (trimStartChars chars).reverse).reverse

def trim (text : String) : String :=
  String.ofList (trimChars text.toList)

def isVoid (text : String) : Bool :=
  text.toList.all isBlank

/-- Splits off one word after another; `word` holds the open word in reverse. -/
def wordsFrom (word : List Char) : List Char → List (List Char)
  | [] => if word.isEmpty then [] else [word.reverse]
  | c :: rest =>
      if isBlank c then
        if word.isEmpty then wordsFrom [] rest else word.reverse :: wordsFrom [] rest
      else wordsFrom (c :: word) rest

/-- The words of a text: its longest runs of characters that are not blank. -/
def words (text : String) : List String :=
  (wordsFrom [] text.toList).map String.ofList

end GpuSharing.Text
