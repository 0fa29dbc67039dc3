import TableSearch.Text.Basic
import TableSearch.Text.WordChar

/-!
# Quantities in a cell

A cell is read from left to right for numbers, each with the unit that stands behind it, if one
does. A number is as long as it can be: digits, then groups of a dot or comma and digits. A unit
begins with a letter and goes on over letters, digits and slashes.
-/

namespace TableSearch

/-- A number found in a cell, with the unit written behind it. -/
structure Quantity where
  numeral : Text
  unit : Option Text
deriving DecidableEq

namespace Quantity

/-- Whether a character separates groups of digits. -/
def isSeparator (character : Char) : Bool :=
  character = '.' || character = ','

/-- The longest number at the start of a text that begins with a digit, and what follows it; a
separator belongs to the number only if a digit follows. -/
def spanNumeral : Text → Text × Text
  | [] => ([], [])
  | character :: rest =>
      if Text.isDigit character || (isSeparator character && rest.head?.any Text.isDigit) then
        let (numeral, after) := spanNumeral rest
        (character :: numeral, after)
      else ([], character :: rest)

/-- Whether a unit can begin with a character. -/
def isUnitStart (character : Char) : Bool :=
  Text.isWordChar character && !Text.isDigit character && character ≠ '_'

/-- Whether a unit can go on with a character. -/
def isUnitPart (character : Char) : Bool :=
  Text.isWordChar character || character = '/'

/-- The unit at the start of a text, if one is there, and what follows it. -/
def spanUnit : Text → Option Text × Text
  | [] => (none, [])
  | character :: rest =>
      if isUnitStart character then
        (some (character :: rest.takeWhile isUnitPart), rest.dropWhile isUnitPart)
      else (none, character :: rest)

/-- A number and what follows it are the text read. -/
theorem spanNumeral_append (text : Text) :
    (spanNumeral text).1 ++ (spanNumeral text).2 = text := by
  induction text with
  | nil => rfl
  | cons character rest ih =>
      rw [spanNumeral]
      split
      · exact congrArg (character :: ·) ih
      · rfl

/-- What follows a number is no longer than the text read. -/
theorem spanNumeral_length (text : Text) : (spanNumeral text).2.length ≤ text.length := by
  have parts := congrArg List.length (spanNumeral_append text)
  rw [List.length_append] at parts
  omega

/-- What follows a unit is no longer than the text read. -/
theorem spanUnit_length (text : Text) : (spanUnit text).2.length ≤ text.length := by
  cases text with
  | nil => exact Nat.le_refl _
  | cons character rest =>
      rw [spanUnit]
      split
      · exact Nat.le_succ_of_le (List.dropWhile_sublist _).length_le
      · exact Nat.le_refl _

/-- The quantities of a text, in the order in which they stand. -/
def all : Text → List Quantity
  | [] => []
  | character :: rest =>
      if Text.isDigit character then
        let numeral := spanNumeral rest
        let unit := spanUnit (numeral.2.dropWhile Text.isBlank)
        ⟨character :: numeral.1, unit.1⟩ :: all unit.2
      else all rest
termination_by text => text.length
decreasing_by
  · have afterUnit := spanUnit_length ((spanNumeral rest).2.dropWhile Text.isBlank)
    have afterBlank :=
      (List.dropWhile_sublist Text.isBlank (l := (spanNumeral rest).2)).length_le
    have afterNumeral := spanNumeral_length rest
    simp only [List.length_cons]
    omega
  · simp only [List.length_cons]
    omega

end Quantity

end TableSearch
