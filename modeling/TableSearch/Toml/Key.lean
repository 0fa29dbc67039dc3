import TableSearch.Json.Token

/-!
# White space, strings and keys of TOML

Each reader takes what it reads from the front of a text and gives it with the rest of the text, or
nothing if the text does not begin with it.
-/

namespace TableSearch.Toml

/-- A text without the white space at its front. -/
def afterBlanks (text : Text) : Text :=
  text.dropWhile Text.isLineBlank

/-- Whether a character may stand in a comment or a literal string. -/
def isVisible (character : Char) : Bool :=
  character = '\t' || (0x20 ≤ character.toNat && character ≠ '\x7f')

/-- The text behind a line end. -/
def readNewline : Text → Option Text
  | '\n' :: rest => some rest
  | '\r' :: '\n' :: rest => some rest
  | _ => none

/-- The text behind white space, line ends and comments; `inComment` tells whether the text begins
in a comment. -/
def readGap (inComment : Bool) : Text → Option Text
  | [] => some []
  | character :: rest =>
      if character = '\n' then readGap false rest
      else if character = '\r' then
        if rest.head? = some '\n' then readGap false rest else none
      else if inComment then
        if isVisible character then readGap true rest else none
      else if Text.isLineBlank character then readGap false rest
      else if character = '#' then readGap true rest
      else some (character :: rest)

/-- The text behind the end of a line: white space, a comment, and a line end or the end of the
text. -/
def readLineEnd (text : Text) : Option Text :=
  match afterBlanks text with
  | [] => some []
  | '#' :: comment =>
      match comment.dropWhile isVisible with
      | [] => some []
      | rest => readNewline rest
  | rest => readNewline rest

/-- The character of an escape behind its backslash. -/
def readEscape : Text → Option (Char × Text)
  | 'b' :: rest => some ('\x08', rest)
  | 't' :: rest => some ('\t', rest)
  | 'n' :: rest => some ('\n', rest)
  | 'f' :: rest => some ('\x0c', rest)
  | 'r' :: rest => some ('\r', rest)
  | '"' :: rest => some ('"', rest)
  | '\\' :: rest => some ('\\', rest)
  | 'u' :: rest => Text.readCode 4 rest
  | 'U' :: rest => Text.readCode 8 rest
  | _ => none

/-- A string of one line behind its opening quote; `steps` bounds the number of its characters. -/
def readLineString : Nat → Text → Option (Text × Text)
  | 0, _ => none
  | _ + 1, [] => none
  | steps + 1, character :: rest =>
      if character = '"' then some ([], rest)
      else if character = '\\' then do
        let (escaped, rest) ← readEscape rest
        let (value, rest) ← readLineString steps rest
        return (escaped :: value, rest)
      else if isVisible character then do
        let (value, rest) ← readLineString steps rest
        return (character :: value, rest)
      else none

/-- A text without the white space and line ends at its front. -/
def afterLines : Text → Text
  | [] => []
  | character :: rest =>
      if Text.isLineBlank character || character = '\n' ||
          (character = '\r' && rest.head? = some '\n') then
        afterLines rest
      else character :: rest

/-- The text behind a backslash at the end of a line and all white space behind it, if the line
ends there. -/
def readJoinedLine (text : Text) : Option Text :=
  (readNewline (afterBlanks text)).map afterLines

/-- The quotes at the front of a text that close a string of several lines: three of them, and
before them up to two that belong to the string. -/
def readClosing (quote : Char) (text : Text) : Option (Text × Text) :=
  let quotes := text.takeWhile (· = quote)
  if 3 ≤ quotes.length then
    let own := min (quotes.length - 3) 2
    some (List.replicate own quote, text.drop (own + 3))
  else none

/-- A string of several lines behind its opening quotes; `steps` bounds the number of its
characters, and only in a string that is not `literal` is a backslash an escape. -/
def readLinesString (literal : Bool) (quote : Char) : Nat → Text → Option (Text × Text)
  | 0, _ => none
  | _ + 1, [] => none
  | steps + 1, character :: rest =>
      match readClosing quote (character :: rest) with
      | some closing => some closing
      | none =>
          if character = '\\' ∧ ¬literal then
            match readJoinedLine rest with
            | some rest => readLinesString literal quote steps rest
            | none => do
                let (escaped, rest) ← readEscape rest
                let (value, rest) ← readLinesString literal quote steps rest
                return (escaped :: value, rest)
          else
            match readNewline (character :: rest) with
            | some rest => do
                let (value, rest) ← readLinesString literal quote steps rest
                return ('\n' :: value, rest)
            | none =>
                if isVisible character then do
                  let (value, rest) ← readLinesString literal quote steps rest
                  return (character :: value, rest)
                else none

/-- A literal string of one line behind its opening quote. -/
def readLiteral (text : Text) : Option (Text × Text) :=
  let value := text.takeWhile fun character => character ≠ '\'' && isVisible character
  match text.drop value.length with
  | '\'' :: rest => some (value, rest)
  | _ => none

/-- A text without the line end at its front. -/
def afterNewline (text : Text) : Text :=
  (readNewline text).getD text

/-- A string of any form. -/
def readString (text : Text) : Option (Text × Text) :=
  let steps := text.length + 1
  match text with
  | '"' :: '"' :: '"' :: rest => readLinesString false '"' steps (afterNewline rest)
  | '\'' :: '\'' :: '\'' :: rest => readLinesString true '\'' steps (afterNewline rest)
  | '"' :: rest => readLineString steps rest
  | '\'' :: rest => readLiteral rest
  | _ => none

/-- Whether a character may stand in a key without quotes. -/
def isBareKeyChar (character : Char) : Bool :=
  character.isAlphanum || character = '_' || character = '-'

/-- A key without dots. -/
def readSimpleKey (text : Text) : Option (Text × Text) :=
  match text with
  | '"' :: rest => readLineString (text.length + 1) rest
  | '\'' :: rest => readLiteral rest
  | _ =>
      let key := text.takeWhile isBareKeyChar
      if key.isEmpty then none else some (key, text.drop key.length)

/-- A key of at most `limit` parts with dots between them, and white space behind it. -/
def readKeyIn : Nat → Text → Option (List Text × Text)
  | 0, _ => none
  | limit + 1, text => do
      let (part, rest) ← readSimpleKey (afterBlanks text)
      match afterBlanks rest with
      | '.' :: rest => do
          let (parts, rest) ← readKeyIn limit rest
          return (part :: parts, rest)
      | rest => return ([part], rest)

/-- A key with dots between its parts, and white space around it. -/
def readKey (text : Text) : Option (List Text × Text) :=
  readKeyIn (text.length + 1) text

end TableSearch.Toml
