import TableSearch.Text.IntervalTree

/-!
# White space

The characters with the Unicode property White_Space.
-/

namespace TableSearch.Text

/-- The code points of white space. -/
def blankRanges : List (Nat × Nat) :=
  [(0x0009, 0x000D), (0x0020, 0x0020), (0x0085, 0x0085), (0x00A0, 0x00A0), (0x1680, 0x1680),
   (0x2000, 0x200A), (0x2028, 0x2029), (0x202F, 0x202F), (0x205F, 0x205F), (0x3000, 0x3000)]

/-- The search tree of `blankRanges`. -/
def blankTree : IntervalTree Unit :=
  .ofRanges blankRanges

/-- Whether a character is white space. -/
def isBlank (character : Char) : Bool :=
  blankTree.contains character.toNat

/-- Whether a character is white space within a line of a file. -/
def isLineBlank (character : Char) : Bool :=
  character = ' ' || character = '\t'

end TableSearch.Text
