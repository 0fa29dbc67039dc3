import TableSearch.Text.Basic

/-!
# The number nearest to a decimal
-/

namespace TableSearch

/-- The number nearest to a decimal with these digits, whose last has the weight `10 ^ scale`. A
decimal too large for any number is infinite. -/
def nearestFloat (negative : Bool) (digits : Text) (scale : Int) : Float :=
  let significant := digits.dropWhile (· = '0')
  let significand := Text.decimalValue significant
  let magnitude : Int := significant.length + scale
  let value : Float :=
    if significand = 0 ∨ magnitude < -400 then 0
    else if 400 < magnitude then 1 / 0
    else
      match scale with
      | .ofNat power => .ofScientific significand false power
      | .negSucc power => .ofScientific significand true (power + 1)
  if negative then -value else value

end TableSearch
