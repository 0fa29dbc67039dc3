import TableSearch.Text.Utf8

/-!
# Why a text is no JSON
-/

namespace TableSearch.Json

/-- What is wrong with a text that is no JSON value. -/
inductive Cause where
  | endInList
  | endInObject
  | endInString
  /-- The text ends where a value should stand. -/
  | endInValue
  | missingColon
  /-- A comma or the end of the list should stand here. -/
  | missingListEnd
  /-- A comma or the end of the object should stand here. -/
  | missingObjectEnd
  /-- A word begins like a literal, but is none. -/
  | badLiteral
  | missingValue
  /-- A backslash is followed by something that means nothing. -/
  | badEscape
  | badNumber
  | numberOutOfRange
  | controlCharacter
  /-- The name of a field is no string. -/
  | badKey
  | loneSurrogate
  /-- A comma stands before the end of a list or an object. -/
  | trailingComma
  | trailingCharacters
  /-- The first half of a surrogate pair is not followed by an escape. -/
  | unfinishedPair
  | tooDeep
deriving DecidableEq

/-- Whether a cause is that the text ends too early. -/
def Cause.isEnd : Cause → Bool
  | .endInList => true
  | .endInObject => true
  | .endInString => true
  | .endInValue => true
  | _ => false

/-- What a user is told of a cause. -/
def Cause.message : Cause → String
  | .endInList => "EOF while parsing a list"
  | .endInObject => "EOF while parsing an object"
  | .endInString => "EOF while parsing a string"
  | .endInValue => "EOF while parsing a value"
  | .missingColon => "expected \x60:\x60"
  | .missingListEnd => "expected \x60,\x60 or \x60]\x60"
  | .missingObjectEnd => "expected \x60,\x60 or \x60\x7d\x60"
  | .badLiteral => "expected ident"
  | .missingValue => "expected value"
  | .badEscape => "invalid escape"
  | .badNumber => "invalid number"
  | .numberOutOfRange => "number out of range"
  | .controlCharacter => "control character (\\u0000-\\u001F) found while parsing a string"
  | .badKey => "key must be a string"
  | .loneSurrogate => "lone leading surrogate in hex escape"
  | .trailingComma => "trailing comma"
  | .trailingCharacters => "trailing characters"
  | .unfinishedPair => "unexpected end of hex escape"
  | .tooDeep => "recursion limit exceeded"

/-- A cause and where it was met: the text not yet read there, and whether the byte that stands
there was already looked at. -/
structure Fault where
  cause : Cause
  rest : Text
  /-- The number of bytes of it that were looked at: none or one. -/
  ahead : Nat
deriving DecidableEq

/-- A place in a text as users are told of it. -/
structure Place where
  line : Nat
  /-- The number of bytes of the line before the place. -/
  column : Nat
deriving DecidableEq

namespace Place

/-- The place behind the first bytes of a text. -/
def afterBytes (count : Nat) : Text → Place → Place
  | [], place => place
  | character :: rest, place =>
      if count = 0 then place
      else if character = '\n' then afterBytes (count - 1) rest ⟨place.line + 1, 0⟩
      else
        let read := min count character.utf8Size
        afterBytes (count - read) rest ⟨place.line, place.column + read⟩

/-- The place in a text where `rest` has not yet been read and `ahead` bytes of it have been looked
at. -/
def before (text rest : Text) (ahead : Nat) : Place :=
  let total := Text.utf8Length text
  afterBytes (min total (total - Text.utf8Length rest + ahead)) text ⟨1, 0⟩

/-- A place as it is written behind a message. -/
def suffix (place : Place) : String :=
  " at line " ++ toString place.line ++ " column " ++ toString place.column

end Place

end TableSearch.Json
