import TableSearch.Text.Alphabetic
import TableSearch.Text.Mark
import TableSearch.Text.Number

/-!
# Characters of identifiers

The class of characters that a unit in a cell is spelled with: letters, marks, decimal digits,
connector punctuation such as the underscore, and the two join controls. Other numbers, such as
superscripts and fractions, are not in it.
-/

namespace TableSearch.Text

/-- The code points of connector punctuation and join controls. -/
def connectorRanges : List (Nat × Nat) :=
  [(0x005F, 0x005F), (0x200C, 0x200D), (0x203F, 0x2040), (0x2054, 0x2054), (0xFE33, 0xFE34),
   (0xFE4D, 0xFE4F), (0xFF3F, 0xFF3F)]

/-- The search tree of `connectorRanges`. -/
def connectorTree : IntervalTree Unit :=
  .ofRanges connectorRanges

/-- Whether a character connects the parts of an identifier. -/
def isConnector (character : Char) : Bool :=
  connectorTree.contains character.toNat

/-- Whether a character can stand in an identifier. -/
def isWordChar (character : Char) : Bool :=
  isAlphabetic character || isMark character || isDigit character || isConnector character

end TableSearch.Text
