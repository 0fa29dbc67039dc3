import TableSearch.NearestFloat
import TableSearch.Settings.Value
import TableSearch.Text.Hex
import TableSearch.Word64

/-!
# Numbers of TOML

Integers are decimal, hexadecimal, octal or binary and fit into 64 bits. Decimals have a fraction,
an exponent or both. A single underscore may stand between two digits.
-/

namespace TableSearch.Toml

/-- Digits without the underscores between them. -/
def digits? (isDigit : Char → Bool) (written : Text) : Option Text :=
  let groups := written.splitOn '_'
  if groups.all fun group => !group.isEmpty && group.all isDigit then some groups.flatten else none

/-- Digits of a decimal number, without needless zeros before them. -/
def wholeDigits? (written : Text) : Option Text := do
  let digits ← digits? Char.isDigit written
  if digits.head? = some '0' ∧ digits ≠ ['0'] then none else some digits

/-- An integer that is not negative in a base. -/
def integerIn? (base : Nat) (written : Text) : Option Setting := do
  let digits ← digits? (fun digit => (Text.hexValue? digit).isSome) written
  return .integer (← Word64.signed? false (← Text.valueIn? base digits))

/-- A decimal integer behind its sign. -/
def decimalInteger? (negative : Bool) (written : Text) : Option Setting := do
  let digits ← wholeDigits? written
  return .integer (← Word64.signed? negative (Text.decimalValue digits))

/-- A decimal from its digits and the weight of the last of them; one that is too large is none. -/
def decimalOf? (negative : Bool) (digits : Text) (scale : Int) : Option Setting :=
  let value := nearestFloat negative digits scale
  if value.isInf ∧ ¬negative then none else some (.decimal value)

/-- The exponent of a decimal behind its `e`. -/
def exponent? (written : Text) : Option Int := do
  let down := written.head? = some '-'
  let unsigned := if down ∨ written.head? = some '+' then written.drop 1 else written
  let digits ← digits? Char.isDigit unsigned
  let value : Int := Text.decimalValue digits
  return if down then -value else value

/-- A decimal behind its sign. -/
def decimal? (negative : Bool) (written : Text) : Option Setting := do
  let isPart := fun character : Char => character.isDigit || character = '_'
  let whole ← wholeDigits? (written.takeWhile isPart)
  let rest := written.dropWhile isPart
  let (fraction, rest) ←
    match rest with
    | '.' :: behind => do
        let fraction ← digits? Char.isDigit (behind.takeWhile isPart)
        pure (fraction, behind.dropWhile isPart)
    | _ => pure ([], rest)
  let exponent ←
    match rest with
    | [] => if fraction.isEmpty then none else pure 0
    | mark :: power => if mark = 'e' ∨ mark = 'E' then exponent? power else none
  decimalOf? negative (whole ++ fraction) (exponent - fraction.length)

/-- A number that is not finite, behind its sign. -/
def notFinite? (negative : Bool) (written : Text) : Option Setting :=
  let sign : Float := if negative then -1 else 1
  if written = ['i', 'n', 'f'] then some (.decimal (sign / 0))
  else if written = ['n', 'a', 'n'] then some (.decimal (0 / 0))
  else none

/-- A number behind its sign. -/
def unsigned? (negative : Bool) (written : Text) : Option Setting :=
  (decimalInteger? negative written).or
    ((decimal? negative written).or (notFinite? negative written))

/-- The number that a text writes. -/
def number? : Text → Option Setting
  | '0' :: 'x' :: digits => integerIn? 16 digits
  | '0' :: 'o' :: digits => integerIn? 8 digits
  | '0' :: 'b' :: digits => integerIn? 2 digits
  | '+' :: written => unsigned? false written
  | '-' :: written => unsigned? true written
  | written => unsigned? false written

end TableSearch.Toml
