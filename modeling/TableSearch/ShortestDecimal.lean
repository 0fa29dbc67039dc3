import TableSearch.Text.Basic

/-!
# The shortest decimals of numbers

A binary number is written with the fewest decimal digits that read back as the number, and of
those digits with the ones nearest to it. A number stands for the interval of reals that round to
it; for one digit, two digits and so on, the two neighbours of the number on the grid of that many
digits are tried, and the first grid with a neighbour inside the interval gives the digits.
-/

namespace TableSearch

/-- The number `digits · 10 ^ exponent`. -/
structure ShortestDecimal where
  /-- The digits, without zeros at the end. -/
  digits : Nat
  /-- The power of ten of the last digit. -/
  exponent : Int
deriving DecidableEq

namespace ShortestDecimal

/-- A positive number and the ends of the interval of reals that round to it, all over one
denominator. -/
structure RoundingInterval where
  center : Nat
  low : Nat
  high : Nat
  denominator : Nat
  /-- Whether the ends round to the number, too. -/
  closed : Bool

/-- The rounding interval of a positive number with these exponent and fraction bits. -/
def RoundingInterval.ofBits (exponentBits fraction : Nat) : RoundingInterval :=
  let mantissa := if exponentBits = 0 then fraction else Nat.pow 2 52 + fraction
  let power := max exponentBits 1
  let scale := Nat.pow 2 (power - 1077)
  let below := if fraction = 0 ∧ 1 < exponentBits then 1 else 2
  ⟨4 * mantissa * scale, (4 * mantissa - below) * scale, (4 * mantissa + 2) * scale,
    Nat.pow 2 (1077 - power), mantissa % 2 = 0⟩

/-- Whether a point of the grid of the power of ten lies in the interval. -/
def RoundingInterval.holds (interval : RoundingInterval) (digits : Nat) (exponent : Int) : Bool :=
  let point := digits * Nat.pow 10 exponent.toNat * interval.denominator
  let scale := Nat.pow 10 (-exponent).toNat
  if interval.closed then interval.low * scale ≤ point && point ≤ interval.high * scale
  else interval.low * scale < point && point < interval.high * scale

/-- The distance of a point of the grid from the number, in units that hang on the grid alone. -/
def RoundingInterval.distance (interval : RoundingInterval) (digits : Nat) (exponent : Int) : Nat :=
  let point := digits * Nat.pow 10 exponent.toNat * interval.denominator
  let center := interval.center * Nat.pow 10 (-exponent).toNat
  (point - center) + (center - point)

/-- The neighbour of the number on a grid that lies in the interval, if one does; the nearer one if
both do, and of two equally near ones the even one. -/
def RoundingInterval.neighbour? (interval : RoundingInterval) (exponent : Int) : Option Nat :=
  let lower :=
    interval.center * Nat.pow 10 (-exponent).toNat
      / (Nat.pow 10 exponent.toNat * interval.denominator)
  let upper := lower + 1
  match interval.holds lower exponent, interval.holds upper exponent with
  | true, true =>
      let fromLower := interval.distance lower exponent
      let fromUpper := interval.distance upper exponent
      if fromLower < fromUpper ∨ (fromLower = fromUpper ∧ lower % 2 = 0) then some lower
      else some upper
  | true, false => some lower
  | false, true => some upper
  | false, false => none

/-- The power of ten just above the number: at least one digit stands right of it. -/
def RoundingInterval.magnitude (interval : RoundingInterval) : Int :=
  (Nat.toDigits 10 (interval.center * Nat.pow 10 340 / interval.denominator)).length - 340

/-- The shortest decimal of the number of an interval. The coarsest grid tried is that of the power
of ten just above the number, which the number may round to. -/
def ofInterval (interval : RoundingInterval) : ShortestDecimal :=
  let magnitude := interval.magnitude
  let found := (List.range 18).findSome? fun count : Nat =>
    let exponent : Int := magnitude - Int.ofNat count
    (interval.neighbour? exponent).map fun digits => ⟨digits, exponent⟩
  found.getD ⟨0, 0⟩

/-- The zeros that a power of ten puts between digits and point. -/
def zeros (count : Int) : Text :=
  List.replicate count.toNat '0'

/-- A decimal without a power of ten: `12300`, `1.23`, `0.00123`. -/
def positional (decimal : ShortestDecimal) : Text :=
  let digits := Text.ofNat decimal.digits
  let point := digits.length + decimal.exponent
  if 0 ≤ decimal.exponent then digits ++ zeros decimal.exponent
  else if 0 < point then digits.take point.toNat ++ ['.'] ++ digits.drop point.toNat
  else ['0', '.'] ++ zeros (-point) ++ digits

/-- A decimal that always shows a point or a power of ten: `12300.0`, `1.23`, `0.00123`, and
`1.23e20` or `1.23e-7` where the point would be far from the digits. -/
def scientific (decimal : ShortestDecimal) : Text :=
  let digits := Text.ofNat decimal.digits
  let point := digits.length + decimal.exponent
  if 0 ≤ decimal.exponent ∧ point ≤ 16 then digits ++ zeros decimal.exponent ++ ['.', '0']
  else if -5 < point ∧ point ≤ 16 then decimal.positional
  else
    let power := ['e'] ++ Text.ofString (toString (point - 1))
    if digits.length = 1 then digits ++ power
    else digits.take 1 ++ ['.'] ++ digits.drop 1 ++ power

/-- A number as text, written by `write` if it is finite and not zero. -/
def written (write : ShortestDecimal → Text) (zero : Text) (number : Float) : Text :=
  let bits := number.toBits.toNat
  let exponentBits := bits / Nat.pow 2 52 % Nat.pow 2 11
  let fraction := bits % Nat.pow 2 52
  let sign := if bits / Nat.pow 2 63 = 1 then ['-'] else []
  if exponentBits = 2047 then
    if fraction = 0 then sign ++ Text.ofString "inf" else Text.ofString "NaN"
  else if exponentBits = 0 ∧ fraction = 0 then sign ++ zero
  else sign ++ write (ofInterval (.ofBits exponentBits fraction))

end ShortestDecimal

/-- A number without a power of ten. -/
def Text.ofFloat (number : Float) : Text :=
  ShortestDecimal.written ShortestDecimal.positional ['0'] number

/-- A number that shows a point or a power of ten. -/
def Text.scientific (number : Float) : Text :=
  ShortestDecimal.written ShortestDecimal.scientific ['0', '.', '0'] number

end TableSearch
