import TableSearch.Quantity
import TableSearch.Query
import TableSearch.SearchError
import TableSearch.Selection
import TableSearch.Table
import TableSearch.Text.WholeWord

/-!
# Rows that satisfy terms and queries

A target is a table with the columns of it that are looked at. A word is looked for in the normal
form of a cell, a number among the quantities of its folding; one cell of a row is enough. A query
selects the rows that hold none of its excluded words and all terms of one of its alternatives.
-/

namespace TableSearch

/-- A table, the columns of it that are looked at, and the units that are known. -/
structure Target where
  table : Table
  /-- The indices of the columns looked at. -/
  columns : List Nat
  units : UnitTable

namespace Target

/-- The target with these columns, if the table has them all. -/
def ofColumns (table : Table) (columns : List Nat) (units : UnitTable) (role : TableRole) :
    Except SearchError Target :=
  match columns.find? (table.width ≤ ·) with
  | some column => .error (.missingColumn role column)
  | none => .ok ⟨table, columns, units⟩

/-- Every row. -/
def all (target : Target) : Selection :=
  .all target.table.height

/-- No row. -/
def none (target : Target) : Selection :=
  .none target.table.height

/-- The cells of a row that are looked at. -/
def cells (target : Target) (row : List (Option Cell)) : List Cell :=
  target.columns.filterMap fun column => row[column]?.join

/-- Whether a word is a whole word of a cell of a row. -/
def rowHasWord (target : Target) (word : Text) (row : List (Option Cell)) : Bool :=
  (target.cells row).any fun cell => Text.containsWord cell.normalized word

/-- Whether the unit written behind a number is the one that a term requires. A unit that is not
known counts as the unit of its own name. -/
def unitMatches (target : Target) (term : Term) (written : Option Text) : Bool :=
  match term.unit, written with
  | .none, _ => true
  | some _, .none => false
  | some required, some spelling =>
      match target.units.resolve spelling with
      | some unit => unit = required
      | .none => Text.normalize spelling = required.name

/-- Whether a quantity of a cell passes the test of a term. -/
def quantityMatches (target : Target) (term : Term) (quantity : Quantity) : Bool :=
  match Numeral.valueOf? quantity.numeral with
  | some value => term.accepts value && target.unitMatches term quantity.unit
  | .none => false

/-- Whether a quantity in a cell of a row passes the test of a term. -/
def rowHasQuantity (target : Target) (term : Term) (row : List (Option Cell)) : Bool :=
  (target.cells row).any fun cell =>
    (Quantity.all cell.folded).any (target.quantityMatches term)

/-- The rows that hold a word. -/
def wordRows (target : Target) (word : Text) : Selection :=
  ⟨target.table.rows.map (target.rowHasWord word)⟩

/-- The rows where the test of a term holds. -/
def testRows (target : Target) (term : Term) : Selection :=
  match term.test with
  | .word word => target.wordRows word
  | .compare _ _ => ⟨target.table.rows.map (target.rowHasQuantity term)⟩
  | .range _ _ => ⟨target.table.rows.map (target.rowHasQuantity term)⟩

/-- The rows where a term holds. -/
def termRows (target : Target) (term : Term) : Selection :=
  if term.negated then (target.testRows term).not else target.testRows term

/-- The rows of a selection where all terms hold; when no row is left, the rest of the terms is not
looked at. -/
def narrowedBy (target : Target) : Selection → List Term → Selection
  | selection, [] => selection
  | selection, term :: rest =>
      let narrowed := selection.and (target.termRows term)
      if narrowed.isEmpty then target.none else target.narrowedBy narrowed rest

/-- The rows where all terms hold. -/
def allTermsRows (target : Target) (terms : List Term) : Selection :=
  target.narrowedBy target.all terms

/-- The rows that satisfy some alternative; an alternative without terms is satisfied by none. -/
def alternativesRows (target : Target) (alternatives : List Alternative) : Selection :=
  (alternatives.filter fun alternative => !alternative.terms.isEmpty).foldl
    (fun selection alternative => selection.or (target.allTermsRows alternative.terms)) target.none

/-- The rows that hold none of the excluded words. -/
def survivingRows (target : Target) (excluded : TextSet) : Selection :=
  ((excluded.toTexts.map Text.normalize).filter fun word => !word.isEmpty).foldl
    (fun selection word => selection.and (target.wordRows word).not) target.all

/-- The rows that hold none of the excluded words and satisfy some alternative; without
alternatives, the rows that hold none of the excluded words. -/
def queryRows (target : Target) (alternatives : List Alternative) (excluded : TextSet) :
    Selection :=
  let surviving := target.survivingRows excluded
  if alternatives.isEmpty || surviving.isEmpty then surviving
  else surviving.and (target.alternativesRows alternatives)

end Target

end TableSearch
