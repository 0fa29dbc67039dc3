import TableSearch.Json.Token
import TableSearch.NearestFloat
import TableSearch.Settings.Value
import TableSearch.Word64

/-!
# Scalars of YAML

A scalar without quotes stands for nothing, a truth value or a number if it looks like one, and for
itself otherwise. A scalar in quotes stands for a text.
-/

namespace TableSearch.Yaml

/-- Whether a text is one of some words. -/
def isOneOf (words : List String) (written : Text) : Bool :=
  words.contains (String.ofList written)

/-- A text behind its sign, and whether the sign is a minus. -/
def splitSign (written : Text) : Bool × Text :=
  match written with
  | '-' :: rest => (true, rest)
  | '+' :: rest => (false, rest)
  | _ => (false, written)

/-- The decimal integer that a text writes. -/
def decimalInteger? (written : Text) : Option Int :=
  let (negative, digits) := splitSign written
  if digits.isEmpty || !digits.all Char.isDigit then none
  else Word64.signed? negative (Text.decimalValue digits)

/-- The integer that digits in a base write. -/
def basedInteger? (base : Nat) (digits : Text) : Option Int := do
  if digits.isEmpty then none
  else Word64.signed? false (← Text.valueIn? base digits)

/-- The integer that a text writes. -/
def integer? (written : Text) : Option Int :=
  match written with
  | '0' :: 'x' :: digits => basedInteger? 16 digits
  | '0' :: 'o' :: digits => basedInteger? 8 digits
  | _ => decimalInteger? written

/-- The power of ten behind the digits of a decimal. -/
def power? (written : Text) : Option Int :=
  match written with
  | [] => some 0
  | mark :: rest =>
      if mark = 'e' ∨ mark = 'E' then
        let (negative, digits) := splitSign rest
        if digits.isEmpty || !digits.all Char.isDigit then none
        else
          let value : Int := Text.decimalValue digits
          some (if negative then -value else value)
      else none

/-- The decimal that a text writes. -/
def decimal? (written : Text) : Option Float := do
  let (negative, unsigned) := splitSign written
  let whole := unsigned.takeWhile Char.isDigit
  let rest := unsigned.dropWhile Char.isDigit
  let (fraction, rest) :=
    match rest with
    | '.' :: behind => (behind.takeWhile Char.isDigit, behind.dropWhile Char.isDigit)
    | _ => ([], rest)
  let power ← power? rest
  if whole.isEmpty && fraction.isEmpty then none
  else return nearestFloat negative (whole ++ fraction) (power - fraction.length)

/-- Whether a text names a number that is not finite; settings cannot hold one. -/
def isNotFinite (written : Text) : Bool :=
  isOneOf [".inf", ".Inf", ".INF", "+.inf", "+.Inf", "+.INF", "-.inf", "-.Inf", "-.INF",
    ".nan", ".NaN", ".NAN"] written

/-- The value of a scalar without quotes. -/
def plainValue? (written : Text) : Option Setting :=
  if isOneOf ["", "~", "null"] written then some .absent
  else if isOneOf ["true", "True", "TRUE"] written then some (.bool true)
  else if isOneOf ["false", "False", "FALSE"] written then some (.bool false)
  else if isNotFinite written then none
  else
    match integer? written with
    | some value => some (.integer value)
    | none =>
        match decimal? written with
        | some value => some (.decimal value)
        | none => some (.text written)

/-- The name that a scalar without quotes stands for as a key. -/
def plainKey? (written : Text) : Option Text :=
  match plainValue? written with
  | some (.integer value) => some (Text.ofString (toString value))
  | some (.bool value) => some (Text.ofString (if value then "true" else "false"))
  | some .absent => none
  | _ => some written

/-- The escapes that stand for one character. -/
def escapes : List (Char × Char) :=
  [('0', '\x00'), ('a', '\x07'), ('b', '\x08'), ('t', '\t'), ('\t', '\t'), ('n', '\n'),
   ('v', '\x0b'), ('f', '\x0c'), ('r', '\r'), ('e', '\x1b'), (' ', ' '), ('"', '"'), ('/', '/'),
   ('\\', '\\'), ('N', '\u0085'), ('_', '\u00a0'), ('L', '\u2028'), ('P', '\u2029')]

/-- The character of an escape behind its backslash. -/
def readEscape : Text → Option (Char × Text)
  | 'x' :: rest => Text.readCode 2 rest
  | 'u' :: rest => Text.readCode 4 rest
  | 'U' :: rest => Text.readCode 8 rest
  | sign :: rest => (escapes.lookup sign).map fun character => (character, rest)
  | [] => none

/-- A text in double quotes behind the first of them, on one line of at most `steps` characters. -/
def readDoubleQuoted : Nat → Text → Option (Text × Text)
  | 0, _ => none
  | _ + 1, [] => none
  | steps + 1, character :: rest =>
      if character = '"' then some ([], rest)
      else if character = '\n' then none
      else do
        let (read, rest) ← if character = '\\' then readEscape rest else some (character, rest)
        let (value, rest) ← readDoubleQuoted steps rest
        return (read :: value, rest)

/-- A text in single quotes behind the first of them, on one line. -/
def readSingleQuoted : Text → Option (Text × Text)
  | '\'' :: '\'' :: rest => do
      let (value, rest) ← readSingleQuoted rest
      return ('\'' :: value, rest)
  | '\'' :: rest => some ([], rest)
  | '\n' :: _ => none
  | character :: rest => do
      let (value, rest) ← readSingleQuoted rest
      return (character :: value, rest)
  | [] => none

/-- A text in quotes. -/
def readQuoted : Text → Option (Text × Text)
  | '"' :: rest => readDoubleQuoted (rest.length + 1) rest
  | '\'' :: rest => readSingleQuoted rest
  | _ => none

/-- Whether nothing or white space is at the front of a text. -/
def isGap (text : Text) : Bool :=
  match text with
  | [] => true
  | character :: _ => Json.isSpace character

/-- Whether a scalar without quotes may begin like this. -/
def beginsPlain (text : Text) : Bool :=
  match text with
  | [] => false
  | character :: rest =>
      if ['-', '?', ':'].contains character then !isGap rest
      else !Json.isSpace character && !"[]\x7b\x7d,#&*!|>'\"%@\x60".toList.contains character

/-- The characters of a scalar without quotes at the front of a text, and the rest. It ends with its
line, before a comment, and before a colon with a gap behind it; between brackets also before
brackets and commas. -/
def takePlain (bracketed : Bool) : Text → Text × Text
  | [] => ([], [])
  | character :: rest =>
      let isEnd :=
        character = '\n' || character = '\r' ||
          (Json.isSpace character && (rest.dropWhile Json.isSpace).head? = some '#') ||
          (character = ':' && (isGap rest ||
            (bracketed && rest.head?.any ("[]\x7b\x7d,".toList.contains ·)))) ||
          (bracketed && "[]\x7b\x7d,".toList.contains character)
      if isEnd then ([], character :: rest)
      else
        let (value, rest) := takePlain bracketed rest
        (character :: value, rest)

/-- A scalar without quotes and without the white space behind it. -/
def readPlain (bracketed : Bool) (text : Text) : Option (Text × Text) :=
  if beginsPlain text then
    let (written, rest) := takePlain bracketed text
    some ((written.reverse.dropWhile Json.isSpace).reverse, rest)
  else none

end TableSearch.Yaml
