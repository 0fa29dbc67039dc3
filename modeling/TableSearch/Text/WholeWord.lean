import TableSearch.Text.Fold

/-!
# Whole words

A word is found in a text where it occurs between two word boundaries. The search goes on behind
each occurrence it meets, so occurrences that overlap an earlier one are not looked at.
-/

namespace TableSearch.Text

/-- Whether a character is part of a word: a letter, a number or an underscore. -/
def isWordPart (character : Char) : Bool :=
  isAlphanumeric character || character = '_'

/-- Whether a word begins or ends between two characters; `none` is the end of the text. -/
def isBoundary (before after : Option Char) : Bool :=
  before.any isWordPart != after.any isWordPart

/-- Whether an occurrence of `word` between these neighbours has a boundary on both sides. -/
def isBounded (word : Text) (before after : Option Char) : Bool :=
  isBoundary before word.head? && isBoundary word.getLast? after

/-- Looks for a bounded occurrence of `word` after skipping the first `skipped` characters, which
belong to an occurrence already looked at. -/
def searchWord (word : Text) : Option Char → Nat → Text → Bool
  | _, _, [] => false
  | _, skipped + 1, character :: rest => searchWord word (some character) skipped rest
  | before, 0, character :: rest =>
      if word.isPrefixOf (character :: rest) then
        isBounded word before ((character :: rest).drop word.length).head? ||
          searchWord word (some character) (word.length - 1) rest
      else
        searchWord word (some character) 0 rest

/-- Whether `word` is a whole word of `text`; the empty text is no word. -/
def containsWord (text word : Text) : Bool :=
  !word.isEmpty && searchWord word none 0 text

end TableSearch.Text
