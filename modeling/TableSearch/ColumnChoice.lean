import TableSearch.SearchError
import TableSearch.Table

/-!
# Choosing columns

The columns that a search looks at are given by index, or are all columns that hold text.
-/

namespace TableSearch

/-- The columns of a table that a search looks at. -/
inductive ColumnChoice where
  /-- Every column that is not wholly numeric. -/
  | textual
  | listed (indices : List Nat)
deriving DecidableEq

/-- The column choices for both tables of a search. -/
structure ColumnChoices where
  dictionary : ColumnChoice
  /-- The choice for the table that is searched. -/
  description : ColumnChoice
deriving DecidableEq

namespace ColumnChoice

/-- The columns of a table that hold text. -/
def textualColumns (table : Table) : List Nat :=
  (List.range table.width).filter fun column =>
    (table.kind? column).any ColumnKind.isTextual

/-- A list with only the first of equal members. -/
def distinct (indices : List Nat) : List Nat :=
  indices.foldl (fun kept index => if kept.contains index then kept else kept ++ [index]) []

/-- The columns of a table that a choice stands for, each once; a choice that leaves no column is
refused. -/
def resolve (choice : ColumnChoice) (table : Table) (role : TableRole) :
    Except SearchError (List Nat) := do
  let columns ←
    match choice with
    | .textual => pure (textualColumns table)
    | .listed indices =>
        match indices.find? (table.width ≤ ·) with
        | some index => throw (.columnOutOfRange role index table.width)
        | none => pure (distinct indices)
  if columns.isEmpty then throw (.noUsableColumns role) else return columns

end ColumnChoice

end TableSearch
