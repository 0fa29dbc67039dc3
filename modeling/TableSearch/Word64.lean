/-!
# Words of 64 bits

The integers that 64 bits hold, with a sign or without one.
-/

namespace TableSearch.Word64

/-- The number of values of a word. -/
def count : Nat := 0x10000000000000000

/-- The number of values of a word that are negative where it has a sign. -/
def half : Nat := 0x8000000000000000

/-- The integer with a sign and a magnitude, if a word with a sign holds it. -/
def signed? (negative : Bool) (magnitude : Nat) : Option Int :=
  if negative then if magnitude ≤ half then some (-magnitude) else none
  else if magnitude < half then some magnitude
  else none

/-- The number itself, if a word without a sign holds it. -/
def unsigned? (number : Nat) : Option Nat :=
  if number < count then some number else none

end TableSearch.Word64
