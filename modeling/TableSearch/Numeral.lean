import TableSearch.Text.Basic

/-!
# Numerals

A comma in a numeral is a decimal comma. A dot separates groups of digits, unless the last group is
short: one or two digits after the last dot are a fraction, three or more are a further group.
Dots at the end mean nothing.
-/

namespace TableSearch

/-- A number as it is written: the digits of its whole part and those of its fraction. -/
structure Numeral where
  /-- The digits before the point, none of them for zero. -/
  whole : Text
  fraction : Text
deriving DecidableEq

namespace Numeral

/-- The number nearest to a numeral. -/
def value (numeral : Numeral) : Float :=
  .ofScientific (Text.decimalValue (numeral.whole ++ numeral.fraction)) true
    numeral.fraction.length

/-- The numeral of groups of digits that dots separate, given from the last group to the first. -/
def ofReversedGroups : List Text → Option Numeral
  | [] => none
  | [digits] => if Text.isDecimal digits then some ⟨digits, []⟩ else none
  | last :: earlier =>
      let head := earlier.reverse.flatten
      if Text.isDecimal last && head.all Char.isDigit then
        some (if 3 ≤ last.length then ⟨head ++ last, []⟩ else ⟨head, last⟩)
      else none

/-- The numeral that a text without commas is. -/
def ofDotted (text : Text) : Option Numeral :=
  ofReversedGroups ((text.splitOn '.').reverse.dropWhile List.isEmpty)

/-- The numeral of a whole part, where dots mean nothing, and the digits after a comma. -/
def ofCommaParts (integer fraction : Text) : Option Numeral :=
  let whole := integer.filter (· ≠ '.')
  if Text.isDecimal whole && Text.isDecimal fraction then some ⟨whole, fraction⟩ else none

/-- The numeral that a text is, without regard to white space at its ends. -/
def ofText? (text : Text) : Option Numeral :=
  match (Text.trimmed text).splitOn ',' with
  | [dotted] => ofDotted dotted
  | [integer, fraction] => ofCommaParts integer fraction
  | _ => none

/-- The number that a text denotes. -/
def valueOf? (text : Text) : Option Float :=
  (ofText? text).map value

end Numeral

end TableSearch
