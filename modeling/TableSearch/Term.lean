import TableSearch.Numeral
import TableSearch.UnitTable

/-!
# Terms of a query

A term is what one token of a query asks of a cell: a word or phrase, a comparison with a number, or
a range of numbers. A numeric term may also require a unit.
-/

namespace TableSearch

/-- The ways to compare a number with another. -/
inductive Comparison where
  | above
  | below
  | atLeast
  | atMost
  | equal
deriving DecidableEq

namespace Comparison

/-- How a comparison is written. -/
def symbol : Comparison → String
  | .above => ">"
  | .below => "<"
  | .atLeast => ">="
  | .atMost => "<="
  | .equal => "="

/-- The relative distance within which two numbers count as equal: two to the power −52. -/
def tolerance : Float :=
  1 / 4503599627370496

/-- Whether two numbers compare as asked. Equality is up to the tolerance, relative to the greater
of the two numbers and one. -/
def holds (comparison : Comparison) (left right : Float) : Bool :=
  match comparison with
  | .above => right < left
  | .below => left < right
  | .atLeast => right ≤ left
  | .atMost => left ≤ right
  | .equal => (left - right).abs < tolerance * max (max left.abs right.abs) 1

end Comparison

/-- What a term tests. -/
inductive Test where
  /-- That a text in normal form is a whole word of the cell. -/
  | word (text : Text)
  /-- That a number of the cell compares with the value. -/
  | compare (comparison : Comparison) (value : Float)
  /-- That a number of the cell lies between two values, both included. -/
  | range (low high : Float)
deriving DecidableEq

/-- A term of a query. -/
structure Term where
  /-- The token that the term was read from. -/
  spelling : Text
  test : Test
  /-- The unit that a number must have, if the term names one that is known. -/
  unit : Option UnitId
  /-- Whether the term asks for the opposite of its test. -/
  negated : Bool
deriving DecidableEq

namespace Term

/-- Whether a term tests numbers. -/
def isNumeric (term : Term) : Bool :=
  match term.test with
  | .word _ => false
  | .compare _ _ => true
  | .range _ _ => true

/-- The term that asks for the opposite. -/
def opposite (term : Term) : Term :=
  { term with negated := !term.negated }

/-- Whether a number of a cell passes the test; words accept no number. -/
def accepts (term : Term) (value : Float) : Bool :=
  match term.test with
  | .word _ => false
  | .compare comparison bound => comparison.holds value bound
  | .range low high => low ≤ value && value ≤ high

end Term

end TableSearch
