import TableSearch.Text.Blank

/-!
# Texts

Queries, cells and names are texts: lists of characters. A text is cut into words at the characters
that a test calls separators, and order is by code point.
-/

namespace TableSearch

/-- A text is the list of its characters. -/
abbrev Text := List Char

namespace Text

/-- The words of a text: its longest runs without a separator. -/
def wordsBy (isSeparator : Char → Bool) (text : Text) : List Text :=
  (text.splitOnP isSeparator).filter fun word => !word.isEmpty

/-- Texts joined with a separator between each two of them. -/
def joined (separator : Text) (texts : List Text) : Text :=
  separator.intercalate texts

/-- The words of a text that white space separates. -/
def words (text : Text) : List Text :=
  wordsBy isBlank text

/-- A text with each run of white space made one space, and none at its ends. -/
def collapsed (text : Text) : Text :=
  joined [' '] (words text)

/-- A text without the elements at its two ends that a test picks. -/
def trimmedBy {Element : Type} (isTrimmed : Element → Bool) (text : List Element) :
    List Element :=
  ((text.dropWhile isTrimmed).reverse.dropWhile isTrimmed).reverse

/-- A text without white space at its ends. -/
def trimmed (text : Text) : Text :=
  trimmedBy isBlank text

/-- Whether a text is empty or white space only. -/
def isBlankText (text : Text) : Bool :=
  text.all isBlank

/-- A string as a text. -/
def ofString (string : String) : Text :=
  string.toList

/-- The decimal digits of a natural number. -/
def ofNat (number : Nat) : Text :=
  Nat.toDigits 10 number

/-- The number that decimal digits of ASCII denote. -/
def decimalValue (digits : Text) : Nat :=
  digits.foldl (fun value digit => 10 * value + (digit.toNat - '0'.toNat)) 0

/-- Whether a text is a nonempty row of ASCII digits. -/
def isDecimal (text : Text) : Bool :=
  !text.isEmpty && text.all Char.isDigit

end Text

end TableSearch
