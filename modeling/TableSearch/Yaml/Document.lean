import TableSearch.Keyed
import TableSearch.Yaml.Scalar

/-!
# Documents of YAML

A document is a tree of tables and lists, laid out by indentation or written in brackets. Scalars
and keys stand on one line. Anchors, tags, directives, scalars in several lines, and keys that are
no scalars are refused. Main definition: `Yaml.read`.
-/

namespace TableSearch.Yaml

/-- The next line with more than white space and comments on it: its indentation and the text from
there on. The text begins `column` characters behind the beginning of its line, and inside a comment
if `inComment` tells so. -/
def nextLine (column : Nat) (inComment : Bool) : Text → Nat × Text
  | [] => (0, [])
  | character :: rest =>
      if character = '\n' then nextLine 0 false rest
      else if inComment || character = '#' then nextLine column true rest
      else if character = ' ' then nextLine (column + 1) false rest
      else if character = '\r' then nextLine column false rest
      else (column, character :: rest)

/-- The text behind the end of a line, if nothing but white space and a comment is left of it. -/
def readLineEnd (text : Text) : Option Text :=
  let behind := text.dropWhile Text.isLineBlank
  match behind with
  | [] => some []
  | '\n' :: rest => some rest
  | '\r' :: '\n' :: rest => some rest
  | '#' :: comment =>
      if text.head?.all Text.isLineBlank then some ((comment.dropWhile (· ≠ '\n')).drop 1) else none
  | _ => none

/-- The text behind white space, line ends and comments between brackets; the text begins inside a
comment if `inComment` tells so. -/
def afterGapFrom (inComment : Bool) : Text → Text
  | [] => []
  | character :: rest =>
      if character = '\n' then afterGapFrom false rest
      else if inComment || character = '#' then afterGapFrom true rest
      else if Json.isSpace character then afterGapFrom false rest
      else character :: rest

/-- The text behind white space, line ends and comments between brackets. -/
def afterGap (text : Text) : Text :=
  afterGapFrom false text

/-- A table with one more entry, unless its key is there. -/
def addEntry (key : Text) (value : Setting) (entries : List (Text × Setting)) :
    Option (List (Text × Setting)) :=
  match Keyed.find? key entries with
  | none => some (Keyed.write key value entries)
  | some _ => none

/-- A key at the front of a text, and what stands behind its colon. -/
def readKey (bracketed : Bool) (text : Text) : Option (Text × Text) := do
  let (key, rest) ←
    match readQuoted text with
    | some quoted => some quoted
    | none => do
        let (written, rest) ← readPlain bracketed text
        pure (← plainKey? written, rest)
  match rest.dropWhile Text.isLineBlank with
  | ':' :: rest => return (key, rest)
  | _ => none

/-- A scalar at the front of a text. -/
def readScalar (bracketed : Bool) (text : Text) : Option (Setting × Text) :=
  match readQuoted text with
  | some (value, rest) => some (.text value, rest)
  | none => do
      let (written, rest) ← readPlain bracketed text
      return (← plainValue? written, rest)

mutual

/-- A value between brackets; `steps` bounds the number of values, items and entries in it. -/
def readInline : Nat → Text → Option (Setting × Text)
  | 0, _ => none
  | steps + 1, text =>
      match text with
      | '[' :: rest => do
          let (items, rest) ← readItems steps (afterGap rest)
          return (.list items, rest)
      | '\x7b' :: rest => do
          let (entries, rest) ← readEntries steps [] (afterGap rest)
          return (.table entries, rest)
      | _ => readScalar true text

/-- The items of a list up to its closing bracket. -/
def readItems : Nat → Text → Option (List Setting × Text)
  | 0, _ => none
  | steps + 1, text =>
      match text with
      | ']' :: rest => some ([], rest)
      | _ => do
          let (item, rest) ← readInline steps text
          match afterGap rest with
          | ']' :: rest => return ([item], rest)
          | ',' :: rest =>
              let (items, rest) ← readItems steps (afterGap rest)
              return (item :: items, rest)
          | _ => none

/-- The entries of a table up to its closing brace. -/
def readEntries : Nat → List (Text × Setting) → Text → Option (List (Text × Setting) × Text)
  | 0, _, _ => none
  | steps + 1, entries, text =>
      match text with
      | '\x7d' :: rest => some (entries, rest)
      | _ => do
          let (key, rest) ← readKey true text
          let (value, rest) ←
            match afterGap rest with
            | ',' :: rest => some (.absent, ',' :: rest)
            | '\x7d' :: rest => some (.absent, '\x7d' :: rest)
            | rest => readInline steps rest
          let entries ← addEntry key value entries
          match afterGap rest with
          | '\x7d' :: rest => return (entries, rest)
          | ',' :: rest => readEntries steps entries (afterGap rest)
          | _ => none

end

/-- A value on one line, and the text behind the line. -/
def readOnLine (text : Text) : Option (Setting × Text) := do
  let (value, rest) ←
    match text with
    | '[' :: _ => readInline (2 * text.length + 2) text
    | '\x7b' :: _ => readInline (2 * text.length + 2) text
    | _ => readScalar false text
  return (value, ← readLineEnd rest)

/-- Whether an item of a list begins at the front of a text. -/
def beginsItem (text : Text) : Bool :=
  match text with
  | '-' :: rest => isGap rest
  | _ => false

/-- Whether a key of a table that indentation lays out is at the front of a text. -/
def beginsEntry (text : Text) : Bool :=
  match readKey false text with
  | some (_, rest) => isGap rest
  | none => false

mutual

/-- A value that begins at a column, and the text behind its last line; `steps` bounds the number of
values, items and entries in it. -/
def readBlock : Nat → Nat → Text → Option (Setting × Text)
  | 0, _, _ => none
  | steps + 1, column, text =>
      if beginsItem text then do
        let (items, rest) ← readListed steps column text
        return (.list items, rest)
      else if beginsEntry text then do
        let (entries, rest) ← readNamed steps column [] text
        return (.table entries, rest)
      else readOnLine text

/-- The items of a list that begin at a column. -/
def readListed : Nat → Nat → Text → Option (List Setting × Text)
  | 0, _, _ => none
  | steps + 1, column, text =>
      if beginsItem text then do
        let behind := text.drop 1
        let (item, rest) ←
          match readLineEnd behind with
          | some rest =>
              let (inner, content) := nextLine 0 false rest
              if column < inner then readBlock steps inner content else some (.absent, rest)
          | none =>
              let blanks := (behind.takeWhile Text.isLineBlank).length
              readBlock steps (column + 1 + blanks) (behind.drop blanks)
        let (next, content) := nextLine 0 false rest
        if next = column ∧ beginsItem content then
          let (items, rest) ← readListed steps column content
          return (item :: items, rest)
        else if column < next then none
        else return ([item], rest)
      else none

/-- The entries of a table whose keys begin at a column. -/
def readNamed : Nat → Nat → List (Text × Setting) → Text → Option (List (Text × Setting) × Text)
  | 0, _, _, _ => none
  | steps + 1, column, entries, text => do
      let (key, behind) ← readKey false text
      if !isGap behind then none
      let (value, rest) ←
        match readLineEnd behind with
        | some rest =>
            let (inner, content) := nextLine 0 false rest
            if column < inner then readBlock steps inner content
            else if inner = column ∧ beginsItem content then do
              let (items, rest) ← readListed steps column content
              pure (Setting.list items, rest)
            else some (.absent, rest)
        | none => readOnLine (behind.dropWhile Text.isLineBlank)
      let entries ← addEntry key value entries
      let (next, content) := nextLine 0 false rest
      if content.isEmpty then return (entries, rest)
      else if next = column then readNamed steps column entries content
      else if column < next then none
      else return (entries, rest)

end

/-- Whether a line that begins a document is at the front of a text. -/
def beginsDocument (text : Text) : Bool :=
  match text with
  | '-' :: '-' :: '-' :: rest => isGap rest
  | _ => false

/-- The value of a text with one document; a text without any stands for an empty table. -/
def readValue (text : Text) : Option Setting := do
  let (column, content) := nextLine 0 false text
  if content.isEmpty then return .table []
  let (column, content) :=
    if column = 0 ∧ beginsDocument content then nextLine 3 false (content.drop 3)
    else (column, content)
  if content.isEmpty then return .absent
  let (value, rest) ← readBlock (3 * text.length + 3) column content
  match nextLine 0 false rest with
  | (_, []) => return value
  | (0, ['.', '.', '.']) => return value
  | (0, '.' :: '.' :: '.' :: '\n' :: []) => return value
  | _ => none

/-- The entries of the outermost table of a text. -/
def read (text : Text) : Option (List (Text × Setting)) :=
  match readValue text with
  | some (.table entries) => some entries
  | _ => none

end TableSearch.Yaml
