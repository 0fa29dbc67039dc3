/-!
# Selections of rows

A selection tells for each row of a table whether the row is selected.
-/

namespace TableSearch

/-- A selection of rows: one bit a row. -/
structure Selection where
  bits : List Bool
deriving DecidableEq

namespace Selection

/-- Every row of a table of the given height. -/
def all (height : Nat) : Selection :=
  ⟨List.replicate height true⟩

/-- No row of a table of the given height. -/
def none (height : Nat) : Selection :=
  ⟨List.replicate height false⟩

/-- The rows with these indices, as far as the table has them. -/
def ofIndices (height : Nat) (indices : List Nat) : Selection :=
  ⟨(List.range height).map fun row => indices.contains row⟩

/-- The number of rows that are selected or not. -/
def height (selection : Selection) : Nat :=
  selection.bits.length

/-- Whether a row is selected; rows outside the table are not. -/
def contains (selection : Selection) (row : Nat) : Bool :=
  (selection.bits[row]?).getD false

/-- The number of selected rows. -/
def count (selection : Selection) : Nat :=
  selection.bits.count true

/-- Whether no row is selected. -/
def isEmpty (selection : Selection) : Bool :=
  !selection.bits.any id

/-- The indices of the selected rows, ascending. -/
def indices (selection : Selection) : List Nat :=
  selection.bits.zipIdx.filterMap fun (selected, row) => if selected then some row else .none

/-- The rows selected by both. -/
def and (left right : Selection) : Selection :=
  ⟨List.zipWith (· && ·) left.bits right.bits⟩

/-- The rows selected by either. -/
def or (left right : Selection) : Selection :=
  ⟨List.zipWith (· || ·) left.bits right.bits⟩

/-- The rows not selected. -/
def not (selection : Selection) : Selection :=
  ⟨selection.bits.map Bool.not⟩

end Selection

end TableSearch
