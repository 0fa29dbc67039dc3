import TableSearch.Text.Basic
import TableSearch.Text.Printable

/-!
# Quoted texts in messages

A message shows a text it speaks of in double quotes. Quotes and backslashes are escaped, and so is
each character that would not show, or would attach to the character before it.
-/

namespace TableSearch.Text

/-- A code point in hexadecimal between braces. -/
def codePointEscape (character : Char) : Text :=
  ofString "\\u\x7b" ++ Nat.toDigits 16 character.toNat ++ ofString "\x7d"

/-- A character as it stands between quotes. -/
def quotedChar (character : Char) : Text :=
  if character = '\x00' then ofString "\\0"
  else if character = '\t' then ofString "\\t"
  else if character = '\r' then ofString "\\r"
  else if character = '\n' then ofString "\\n"
  else if character = '"' ∨ character = '\\' then ['\\', character]
  else if isGraphemeExtend character || isHidden character then codePointEscape character
  else [character]

/-- A text between quotes. -/
def quoted (text : Text) : Text :=
  ['"'] ++ text.flatMap quotedChar ++ ['"']

end TableSearch.Text
