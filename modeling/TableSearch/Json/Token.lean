import TableSearch.Json
import TableSearch.Json.Fault
import TableSearch.Text.Hex
import TableSearch.Word64

/-!
# Tokens of JSON

A text is cut into tokens, each with the text that begins with it. What is no token is kept as a
token, too, with what is wrong with it: whether it matters hangs on what stands before it.
-/

namespace TableSearch.Json

/-- A token of JSON. -/
inductive Token where
  | openObject
  | closeObject
  | openList
  | closeList
  | colon
  | comma
  | string (value : Text)
  | badString (fault : Fault)
  | scalar (value : Json)
  /-- A number or a literal that is not well formed. -/
  | badScalar (fault : Fault)
  | unknown

/-- Whether a character is white space between tokens. -/
def isSpace (character : Char) : Bool :=
  character = ' ' || character = '\n' || character = '\t' || character = '\r'

/-- Four hexadecimal digits. -/
def readHex (text : Text) : Except Fault (Nat × Text) :=
  if Text.utf8Length text < 4 then .error ⟨.endInString, [], 0⟩
  else
    let rest := text.drop 4
    match Text.valueIn? 16 (text.take 4) with
    | some code => .ok (code, rest)
    | none => .error ⟨.badEscape, rest, 0⟩

/-- The character of an escape behind its `u`; a character beyond the first plane is written as two
escapes, the halves of a surrogate pair. -/
def readUnicodeEscape (text : Text) : Except Fault (Char × Text) := do
  let (first, rest) ← readHex text
  if 0xDC00 ≤ first ∧ first ≤ 0xDFFF then throw ⟨.loneSurrogate, rest, 0⟩
  else if first < 0xD800 ∨ 0xDBFF < first then return (Char.ofNat first, rest)
  else
    match rest with
    | [] => throw ⟨.endInString, [], 0⟩
    | '\\' :: [] => throw ⟨.endInString, [], 0⟩
    | '\\' :: 'u' :: more =>
        let (second, rest) ← readHex more
        if second < 0xDC00 ∨ 0xDFFF < second then throw ⟨.loneSurrogate, rest, 0⟩
        else
          return (Char.ofNat (0x10000 + (first - 0xD800) * 0x400 + (second - 0xDC00)), rest)
    | '\\' :: more => throw ⟨.unfinishedPair, more, 1⟩
    | more => throw ⟨.unfinishedPair, more, 1⟩

/-- The character of an escape behind its backslash. -/
def readEscape : Text → Except Fault (Char × Text)
  | [] => .error ⟨.endInString, [], 0⟩
  | sign :: rest =>
      match sign with
      | '"' => .ok ('"', rest)
      | '\\' => .ok ('\\', rest)
      | '/' => .ok ('/', rest)
      | 'b' => .ok ('\x08', rest)
      | 'f' => .ok ('\x0c', rest)
      | 'n' => .ok ('\n', rest)
      | 'r' => .ok ('\r', rest)
      | 't' => .ok ('\t', rest)
      | 'u' => readUnicodeEscape rest
      | _ => .error ⟨.badEscape, sign :: rest, 1⟩

/-- The rest of a string behind its opening quote, read in at most `steps` steps of one character or
escape; a text has fewer steps than characters. -/
def readStringIn : Nat → Text → Except Fault (Text × Text)
  | 0, rest => .error ⟨.endInString, rest, 0⟩
  | _ + 1, [] => .error ⟨.endInString, [], 0⟩
  | steps + 1, character :: rest =>
      if character = '"' then .ok ([], rest)
      else if character = '\\' then do
        let (escaped, rest) ← readEscape rest
        let (value, rest) ← readStringIn steps rest
        return (escaped :: value, rest)
      else if character.toNat < 0x20 then .error ⟨.controlCharacter, character :: rest, 1⟩
      else do
        let (value, rest) ← readStringIn steps rest
        return (character :: value, rest)

/-- The rest of a string behind its opening quote. -/
def readString (text : Text) : Except Fault (Text × Text) :=
  readStringIn (text.length + 1) text

/-- Digits taken into a number for as long as it fits into 64 bits, and the digits left. -/
def takeDigits (significand : Nat) : Text → Nat × Text
  | [] => (significand, [])
  | digit :: rest =>
      let next := 10 * significand + (digit.toNat - '0'.toNat)
      if Word64.count ≤ next then (significand, digit :: rest) else takeDigits next rest

/-- A number divided by `10 ^ 308` until the power of ten left for it is in range; three times are
enough for every number that fits into 64 bits to vanish. -/
def divideDown : Nat → Float → Nat → Float × Nat
  | 0, number, power => (number, power)
  | steps + 1, number, power =>
      if power ≤ 308 then (number, power) else divideDown steps (number / 1e308) (power - 308)

/-- The number `significand · 10 ^ exponent`, each factor rounded before they are multiplied; none
if it is out of range. -/
def scaled? (significand : Nat) (exponent : Int) : Option Float :=
  let number := Float.ofNat significand
  match exponent with
  | .ofNat power =>
      if significand = 0 then some number
      else if 308 < power then none
      else
        let result := number * Float.ofScientific 1 false power
        if result.isInf then none else some result
  | .negSucc power =>
      let (number, power) := divideDown 3 number (power + 1)
      some (if 308 < power then 0 else number / Float.ofScientific 1 false power)

/-- A decimal from its sign, significand and exponent. -/
def decimalOf (negative : Bool) (significand : Nat) (exponent : Int) (rest : Text) :
    Except Fault (Json × Text) :=
  match scaled? significand exponent with
  | some number => .ok (.decimal (if negative then -number else number), rest)
  | none => .error ⟨.numberOutOfRange, rest, 0⟩

/-- The exponent of a decimal, behind its `e`. -/
def readExponent (negative : Bool) (significand : Nat) (exponent : Int) (text : Text) :
    Except Fault (Json × Text) :=
  let (down, text) :=
    match text with
    | '+' :: rest => (false, rest)
    | '-' :: rest => (true, rest)
    | _ => (false, text)
  match text with
  | [] => .error ⟨.endInValue, [], 0⟩
  | first :: _ =>
      if first.isDigit then
        let digits := text.takeWhile Char.isDigit
        let rest := text.dropWhile Char.isDigit
        let power := Text.decimalValue digits
        if down then decimalOf negative significand (exponent - power) rest
        else decimalOf negative significand (exponent + power) rest
      else .error ⟨.badNumber, text, 1⟩

/-- What may follow the digits of a decimal: an exponent or nothing. -/
def readDecimalEnd (negative : Bool) (significand : Nat) (exponent : Int) (text : Text) :
    Except Fault (Json × Text) :=
  match text with
  | 'e' :: rest => readExponent negative significand exponent rest
  | 'E' :: rest => readExponent negative significand exponent rest
  | _ => decimalOf negative significand exponent text

/-- The digits behind the point of a decimal. -/
def readFraction (negative : Bool) (significand : Nat) (exponent : Int) (text : Text) :
    Except Fault (Json × Text) :=
  let digits := text.takeWhile Char.isDigit
  let rest := text.dropWhile Char.isDigit
  if digits.isEmpty then
    match rest with
    | [] => .error ⟨.endInValue, [], 0⟩
    | _ => .error ⟨.badNumber, rest, 1⟩
  else
    let (significand, left) := takeDigits significand digits
    let taken : Nat := digits.length - left.length
    readDecimalEnd negative significand (exponent - taken) rest

/-- A number behind its sign. -/
def readNumber (negative : Bool) (text : Text) : Except Fault (Json × Text) :=
  match text with
  | [] => .error ⟨.endInValue, [], 0⟩
  | first :: more =>
      if !first.isDigit then .error ⟨.badNumber, text, 1⟩
      else if first = '0' ∧ more.head?.any Char.isDigit then .error ⟨.badNumber, more, 1⟩
      else
        let (significand, left) := takeDigits 0 (text.takeWhile Char.isDigit)
        let rest := text.dropWhile Char.isDigit
        match rest with
        | '.' :: fraction => readFraction negative significand left.length fraction
        | _ =>
            if left.isEmpty ∧ ¬(rest.head? = some 'e' ∨ rest.head? = some 'E') then
              if !negative then .ok (.integer significand, rest)
              else if 0 < significand ∧ significand ≤ Word64.half then
                .ok (.integer (-significand), rest)
              else .ok (.decimal (-Float.ofNat significand), rest)
            else readDecimalEnd negative significand left.length rest

/-- A literal whose first character has been read. -/
def readLiteral (value : Json) : Text → Text → Except Fault (Json × Text)
  | [], rest => .ok (value, rest)
  | _ :: _, [] => .error ⟨.endInValue, [], 0⟩
  | expected :: more, character :: rest =>
      if character = expected then readLiteral value more rest
      else .error ⟨.badLiteral, character :: rest, 1⟩

/-- A token for what a reading of a scalar gives, and the rest of the text. -/
def scalarToken : Except Fault (Json × Text) → Token × Text
  | .ok (value, rest) => (.scalar value, rest)
  | .error fault => (.badScalar fault, [])

/-- The token that begins with a character and the text behind it, and the rest of the text. -/
def readToken (character : Char) (rest : Text) : Token × Text :=
  match character with
  | '\x7b' => (.openObject, rest)
  | '\x7d' => (.closeObject, rest)
  | '[' => (.openList, rest)
  | ']' => (.closeList, rest)
  | ':' => (.colon, rest)
  | ',' => (.comma, rest)
  | '"' =>
      match readString rest with
      | .ok (value, rest) => (.string value, rest)
      | .error fault => (.badString fault, [])
  | 'n' => scalarToken (readLiteral .null (Text.ofString "ull") rest)
  | 't' => scalarToken (readLiteral (.bool true) (Text.ofString "rue") rest)
  | 'f' => scalarToken (readLiteral (.bool false) (Text.ofString "alse") rest)
  | '-' => scalarToken (readNumber true rest)
  | _ => if character.isDigit then scalarToken (readNumber false (character :: rest))
      else (.unknown, [])

/-- A token and where it stands. -/
structure PlacedToken where
  token : Token
  text : Text
  rest : Text

/-- The tokens of a text, read in at most `steps` steps of one token or one character of white
space; a text has fewer steps than characters. -/
def tokensIn : Nat → Text → List PlacedToken
  | 0, _ => []
  | _ + 1, [] => []
  | steps + 1, character :: rest =>
      if isSpace character then tokensIn steps rest
      else
        let (token, after) := readToken character rest
        ⟨token, character :: rest, after⟩ :: tokensIn steps after

/-- The tokens of a text, up to the first that is not well formed. -/
def tokens (text : Text) : List PlacedToken :=
  tokensIn (text.length + 1) text

end TableSearch.Json
