import TableSearch.Toml.Branch
import TableSearch.Toml.Key
import TableSearch.Toml.Moment
import TableSearch.Toml.Number

/-!
# Documents of TOML

A document is a row of entries and headers, one a line. An entry belongs to the table of the last
header before it. Main definition: `Toml.read`.
-/

namespace TableSearch.Toml

/-- Whether a character may stand in a number, a date or a literal. -/
def isScalarChar (character : Char) : Bool :=
  character.isAlphanum || ['+', '-', '.', ':', '_'].contains character

/-- The value that a number, a date or a literal writes. -/
def scalar? (written : Text) : Option Setting :=
  if written = Text.ofString "true" then some (.bool true)
  else if written = Text.ofString "false" then some (.bool false)
  else (number? written).or ((moment? written).map .text)

/-- A number, a date or a literal. A time may stand behind a date and a space. -/
def readScalar (text : Text) : Option (Setting × Text) := do
  let written := text.takeWhile isScalarChar
  let rest := text.drop written.length
  let whole :=
    match readDate written, rest with
    | some (_, []), ' ' :: behind =>
        if behind.head?.any Char.isDigit then
          written ++ [' '] ++ behind.takeWhile isScalarChar
        else written
    | _, _ => written
  let value ← scalar? whole
  return (value, text.drop whole.length)

mutual

/-- A value; `steps` bounds the number of values, items and entries in it. -/
def readValue : Nat → Text → Option (Setting × Text)
  | 0, _ => none
  | steps + 1, text =>
      match text with
      | '[' :: rest => do
          let (items, rest) ← readItems steps rest
          return (.list items, rest)
      | '\x7b' :: rest =>
          match afterBlanks rest with
          | '\x7d' :: rest => some (.table [], rest)
          | rest => do
              let (branch, rest) ← readEntries steps .root rest
              return (.table (entrySettings branch.entries), rest)
      | '"' :: _ => do
          let (value, rest) ← readString text
          return (.text value, rest)
      | '\'' :: _ => do
          let (value, rest) ← readString text
          return (.text value, rest)
      | _ => readScalar text

/-- The items of a list up to its closing bracket. -/
def readItems : Nat → Text → Option (List Setting × Text)
  | 0, _ => none
  | steps + 1, text => do
      match ← readGap false text with
      | ']' :: rest => return ([], rest)
      | rest =>
          let (item, rest) ← readValue steps rest
          match ← readGap false rest with
          | ']' :: rest => return ([item], rest)
          | ',' :: rest =>
              let (items, rest) ← readItems steps rest
              return (item :: items, rest)
          | _ => none

/-- The entries of a table in braces up to its closing brace. -/
def readEntries : Nat → Branch → Text → Option (Branch × Text)
  | 0, _, _ => none
  | steps + 1, branch, text => do
      let (key, rest) ← readKey text
      let (value, rest) ←
        match rest with
        | '=' :: rest => readValue steps (afterBlanks rest)
        | _ => none
      let branch ← branch.add key value
      match afterBlanks rest with
      | '\x7d' :: rest => return (branch, rest)
      | ',' :: rest => readEntries steps branch rest
      | _ => none

end

/-- A document while it is read. -/
structure Draft where
  root : Branch
  /-- The path to the table of the last header. -/
  current : List Text

namespace Draft

/-- The draft before the first line. -/
def start : Draft :=
  ⟨.root, []⟩

/-- The draft after a header, the text of which begins behind its first bracket. -/
def readHeader (draft : Draft) (text : Text) : Option (Draft × Text) :=
  match text with
  | '[' :: rest => do
      let (path, rest) ← readKey rest
      match rest with
      | ']' :: ']' :: rest => return (⟨← draft.root.openListed path, path⟩, rest)
      | _ => none
  | _ => do
      let (path, rest) ← readKey text
      match rest with
      | ']' :: rest => return (⟨← draft.root.openTable path, path⟩, rest)
      | _ => none

/-- The draft after an entry. -/
def readEntry (draft : Draft) (text : Text) : Option (Draft × Text) := do
  let (key, rest) ← readKey text
  match rest with
  | '=' :: rest =>
      let (value, rest) ← readValue (2 * text.length + 2) (afterBlanks rest)
      let root ← draft.root.inside false draft.current (Branch.add key value)
      return (⟨root, draft.current⟩, rest)
  | _ => none

/-- The draft after at most `limit` lines with an entry or a header. -/
def readLines : Nat → Draft → Text → Option Draft
  | limit, draft, text => do
      match ← readGap false text with
      | [] => return draft
      | first :: behind =>
          match limit with
          | 0 => none
          | limit + 1 =>
              let (draft, rest) ←
                if first = '[' then draft.readHeader behind else draft.readEntry (first :: behind)
              readLines limit draft (← readLineEnd rest)

end Draft

/-- A text without the byte order mark at its front. -/
def afterMark : Text → Text
  | '\ufeff' :: rest => rest
  | text => text

/-- The entries of the document that a text is. -/
def read (text : Text) : Option (List (Text × Setting)) := do
  let draft ← Draft.readLines (text.length + 1) .start (afterMark text)
  return entrySettings draft.root.entries

end TableSearch.Toml
