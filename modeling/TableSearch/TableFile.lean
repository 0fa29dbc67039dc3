import TableSearch.Csv
import TableSearch.Table
import TableSearch.Text.Utf8

/-!
# Table files

A table file is a delimited file whose first record names the columns. White space around a field
does not belong to it, and an empty field is no cell.
-/

namespace TableSearch.TableFile

/-- What is wrong with a table file. -/
inductive Fault where
  /-- There is no record that names the columns. -/
  | noHeader
  /-- A field is not UTF-8: where its record was looked for, which field of the record it is, and
  how many of its bytes are. -/
  | noText (position : Csv.Position) (field validBytes : Nat)
deriving DecidableEq

/-- Whether a byte is white space around a field. -/
def isBlankByte (byte : UInt8) : Bool :=
  byte = 0x20 || byte = 0x09 || byte = 0x0A || byte = 0x0C || byte = 0x0D

/-- The texts of the fields of a record, from the field with index `index` on. -/
def fieldTexts (position : Csv.Position) (index : Nat) :
    List Csv.Field → Except Fault (List Text)
  | [] => .ok []
  | field :: rest =>
      match Text.ofUtf8 field with
      | .error validBytes => .error (.noText position index validBytes)
      | .ok text => (Text.trimmed text :: ·) <$> fieldTexts position (index + 1) rest

/-- The names of the columns. -/
def headerTexts (record : Csv.Record) : Except Fault (List Text) :=
  fieldTexts record.position 0 record.fields

/-- The cells of a row. -/
def rowTexts (record : Csv.Record) : Except Fault (List (Option Text)) := do
  let texts ← fieldTexts record.position 0 (record.fields.map (Text.trimmedBy isBlankByte))
  return texts.map fun text => if text.isEmpty then none else some text

/-- The table of a file. -/
def read (delimiter : UInt8) (bytes : List UInt8) : Except Fault Table :=
  match Csv.records delimiter bytes with
  | [] => .error .noHeader
  | header :: records => do
      let columns ← headerTexts header
      let rows ← records.mapM rowTexts
      return .ofTexts columns rows

end TableSearch.TableFile
