import TableSearch.Text.Alphabetic
import TableSearch.Text.Basic
import TableSearch.Text.CombiningClass
import TableSearch.Text.Decomposition
import TableSearch.Text.Mark
import TableSearch.Text.Number
import TableSearch.Text.Uppercase

/-!
# Folding and normal form

Texts are compared without regard to case and diacritics. Folding puts a text in upper case,
decomposes it canonically and removes the combining marks; the normal form of a text is the words of
its folding, one space between each two.
-/

namespace TableSearch.Text

/-- Whether a character is a letter or a number of any script. -/
def isAlphanumeric (character : Char) : Bool :=
  isAlphabetic character || isDigit character || isOtherNumber character

/-- Puts a mark before a text in canonical order, after the marks of lower class that lead it. -/
def insertMark (mark : Char) : Text → Text
  | [] => [mark]
  | next :: rest =>
      if 0 < combiningClass next ∧ combiningClass next < combiningClass mark then
        next :: insertMark mark rest
      else
        mark :: next :: rest

/-- A text with each run of marks in ascending order of class; marks of one class keep their
order. -/
def canonicalOrder (text : Text) : Text :=
  text.foldr insertMark []

/-- The canonical decomposition of a text. -/
def decomposed (text : Text) : Text :=
  canonicalOrder (text.flatMap decomposeChar)

/-- A text in upper case without combining marks; all else stays in place. -/
def fold (text : Text) : Text :=
  (decomposed (uppercase text)).filter fun character => !isMark character

/-- Whether a character can stand in a word of a normal form: letters, numbers and the four signs
that codes and measures are written with. -/
def isKept (character : Char) : Bool :=
  isAlphanumeric character || ['.', '-', '_', '/'].contains character

/-- The words of a text in normal form. -/
def foldedWords (text : Text) : List Text :=
  wordsBy (fun character => !isKept character) (fold text)

/-- The normal form of a text: the words of its folding, one space between each two. -/
def normalize (text : Text) : Text :=
  joined [' '] (foldedWords text)

end TableSearch.Text
