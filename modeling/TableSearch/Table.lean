import TableSearch.Numeral
import TableSearch.Text.Fold

/-!
# Tables

A table has named columns, each with a kind, and rows of cells. A cell that holds no text is absent.
Each cell carries its folding and its normal form, which searches look at.
-/

namespace TableSearch

/-- What the cells of a column hold. -/
inductive ColumnKind where
  | text
  | numeric
  /-- Some cells are numbers and some are not. -/
  | mixed
deriving DecidableEq

namespace ColumnKind

/-- The name of a kind. -/
def name : ColumnKind → String
  | .text => "text"
  | .numeric => "numeric"
  | .mixed => "mixed"

/-- Whether words are searched for in columns of a kind. -/
def isTextual : ColumnKind → Bool
  | .text => true
  | .numeric => false
  | .mixed => true

/-- The kind of a column with these cells; absent and blank cells do not count. -/
def ofCells (cells : List (Option Text)) : ColumnKind :=
  let filled := (cells.filterMap id).filter fun cell => !Text.isBlankText cell
  let isNumber := fun cell => (Numeral.ofText? cell).isSome
  if filled.any isNumber then
    if filled.all isNumber then .numeric else .mixed
  else .text

end ColumnKind

/-- A cell with the forms that searches compare. -/
structure Cell where
  raw : Text
  /-- Its folding, which numbers are read from. -/
  folded : Text
  /-- Its normal form, which words are looked for in. -/
  normalized : Text
  folded_eq : folded = Text.fold raw
  normalized_eq : normalized = Text.normalize raw
deriving DecidableEq

namespace Cell

/-- The cell with a text. -/
def ofText (raw : Text) : Cell :=
  ⟨raw, Text.fold raw, Text.normalize raw, rfl, rfl⟩

/-- The cell of a text that may be missing; the empty text is no cell. -/
def ofText? (raw : Option Text) : Option Cell :=
  (raw.filter fun text => !text.isEmpty).map ofText

end Cell

/-- A table of cells under named columns. -/
structure Table where
  columns : List Text
  kinds : List ColumnKind
  /-- The rows, each with one entry a column. -/
  rows : List (List (Option Cell))
deriving DecidableEq

/-- Tabular data as its owner presents it. -/
structure TableSource where
  columns : List Text
  /-- The kind that the owner reports for a column. -/
  kind : Nat → ColumnKind
  rowCount : Nat
  /-- The text at a row and a column. -/
  cell : Nat → Nat → Option Text

namespace Table

/-- The table without columns and rows. -/
def empty : Table :=
  ⟨[], [], []⟩

/-- A row of the given width: short rows end in absent cells, and what is too long is cut off. -/
def rowOfTexts (width : Nat) (texts : List (Option Text)) : List (Option Cell) :=
  let cells := (texts.take width).map Cell.ofText?
  cells ++ List.replicate (width - cells.length) none

/-- The texts of a column of rows. -/
def columnTexts (rows : List (List (Option Cell))) (column : Nat) : List (Option Text) :=
  rows.map fun cells => (cells[column]?.join).map Cell.raw

/-- The table of rows under column names, with the kinds that the cells show. -/
def ofTexts (columns : List Text) (texts : List (List (Option Text))) : Table :=
  let rows := texts.map (rowOfTexts columns.length)
  ⟨columns, (List.range columns.length).map fun column => .ofCells (columnTexts rows column), rows⟩

/-- The table that an owner presents, with the kinds that the owner reports. -/
def ofSource (source : TableSource) : Table where
  columns := source.columns
  kinds := (List.range source.columns.length).map source.kind
  rows := (List.range source.rowCount).map fun row =>
    (List.range source.columns.length).map fun column => Cell.ofText? (source.cell row column)

/-- The number of columns. -/
def width (table : Table) : Nat :=
  table.columns.length

/-- The number of rows. -/
def height (table : Table) : Nat :=
  table.rows.length

/-- The kind of a column, if the table has it. -/
def kind? (table : Table) (column : Nat) : Option ColumnKind :=
  table.kinds[column]?

/-- The cell at a row and a column, if there is one. -/
def cell? (table : Table) (row column : Nat) : Option Cell :=
  (table.rows[row]?).bind fun cells => cells[column]?.join

/-- The texts of a row, in column order. -/
def row? (table : Table) (row : Nat) : Option (List (Option Text)) :=
  (table.rows[row]?).map fun cells => cells.map fun cell => cell.map Cell.raw

/-- A table as an owner of tabular data. -/
def toSource (table : Table) : TableSource where
  columns := table.columns
  kind := fun column => (table.kind? column).getD .text
  rowCount := table.height
  cell := fun row column => (table.cell? row column).map Cell.raw

end Table

end TableSearch
