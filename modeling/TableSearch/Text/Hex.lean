import TableSearch.Text.Basic

/-!
# Hexadecimal numbers in texts
-/

namespace TableSearch.Text

/-- The value of a hexadecimal digit. -/
def hexValue? (digit : Char) : Option Nat :=
  if '0' ≤ digit ∧ digit ≤ '9' then some (digit.toNat - '0'.toNat)
  else if 'a' ≤ digit ∧ digit ≤ 'f' then some (digit.toNat - 'a'.toNat + 10)
  else if 'A' ≤ digit ∧ digit ≤ 'F' then some (digit.toNat - 'A'.toNat + 10)
  else none

/-- The number that digits in a base of at most sixteen write; no digits write zero. -/
def valueIn? (base : Nat) (digits : Text) : Option Nat := do
  let values ← digits.mapM hexValue?
  if values.all (· < base) then
    return values.foldl (fun value digit => base * value + digit) 0
  else none

/-- The character whose code is written with a number of hexadecimal digits, and the rest. -/
def readCode (count : Nat) (text : Text) : Option (Char × Text) := do
  let digits := text.take count
  let code ← valueIn? 16 digits
  if digits.length = count ∧ code.isValidChar then return (Char.ofNat code, text.drop count)
  else none

end TableSearch.Text
