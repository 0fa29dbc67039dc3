import TableSearch.Json
import TableSearch.ShortestDecimal

/-!
# Writing JSON

A value is written over several lines, with two spaces for each level of nesting. Empty arrays and
objects stay on one line. In strings, quotes, backslashes and the control characters below the space
are escaped.
-/

namespace TableSearch.Json

/-- Four hexadecimal digits of a code point below 65536. -/
def fourHexDigits (code : Nat) : Text :=
  let digits := Nat.toDigits 16 code
  List.replicate (4 - digits.length) '0' ++ digits

/-- A character as it stands in a string. -/
def writtenChar (character : Char) : Text :=
  if character = '"' ∨ character = '\\' then ['\\', character]
  else if character = '\x08' then ['\\', 'b']
  else if character = '\x0c' then ['\\', 'f']
  else if character = '\n' then ['\\', 'n']
  else if character = '\r' then ['\\', 'r']
  else if character = '\t' then ['\\', 't']
  else if character.toNat < 0x20 then ['\\', 'u'] ++ fourHexDigits character.toNat
  else [character]

/-- A string in quotes. -/
def writtenString (value : Text) : Text :=
  ['"'] ++ value.flatMap writtenChar ++ ['"']

/-- The start of a line at a level of nesting. -/
def newLine (level : Nat) : Text :=
  '\n' :: List.replicate (2 * level) ' '

mutual

/-- A value that begins at a level of nesting. -/
def writtenAt (level : Nat) : Json → Text
  | .null => Text.ofString "null"
  | .bool value => Text.ofString (if value then "true" else "false")
  | .integer value => Text.ofString (toString value)
  | .decimal value => Text.scientific value
  | .string value => writtenString value
  | .array [] => ['[', ']']
  | .array (first :: rest) =>
      ['['] ++ newLine (level + 1) ++ writtenAt (level + 1) first ++
        writtenItems (level + 1) rest ++ newLine level ++ [']']
  | .object [] => ['\x7b', '\x7d']
  | .object ((name, first) :: rest) =>
      ['\x7b'] ++ newLine (level + 1) ++ writtenString name ++ [':', ' '] ++
        writtenAt (level + 1) first ++ writtenFields (level + 1) rest ++ newLine level ++ ['\x7d']

/-- The items of an array behind its first. -/
def writtenItems (level : Nat) : List Json → Text
  | [] => []
  | item :: rest => [','] ++ newLine level ++ writtenAt level item ++ writtenItems level rest

/-- The fields of an object behind its first. -/
def writtenFields (level : Nat) : List (Text × Json) → Text
  | [] => []
  | (name, value) :: rest =>
      [','] ++ newLine level ++ writtenString name ++ [':', ' '] ++ writtenAt level value ++
        writtenFields level rest

end

/-- A value, written over several lines. -/
def pretty (value : Json) : Text :=
  writtenAt 0 value

end TableSearch.Json
