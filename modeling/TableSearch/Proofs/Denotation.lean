import TableSearch.Proofs.Target

/-!
# What a query says of a row

A term says of a row that some cell which is looked at passes a test, or that none does; a query
says that no cell holds an excluded word and that all terms of some alternative are true. Main
statement: a query selects the rows of which what it says is true, as if every mask were evaluated
to its end.
-/

namespace TableSearch.Target

variable {target : Target} {index : Nat} {row : List (Option Cell)}

/-- Some cell that is looked at in a row of the table passes a test. -/
def SomeCell (target : Target) (index : Nat) (passes : Cell → Prop) : Prop :=
  ∃ column ∈ target.columns, ∃ cell, target.table.cell? index column = some cell ∧ passes cell

/-- A cell passes the test of a term: it holds the word, or a number that the term accepts with a
unit that it admits. -/
def CellPasses (target : Target) (term : Term) (cell : Cell) : Prop :=
  match term.test with
  | .word word => Text.containsWord cell.normalized word = true
  | .compare _ _ =>
      ∃ quantity ∈ Quantity.all cell.folded, target.quantityMatches term quantity = true
  | .range _ _ =>
      ∃ quantity ∈ Quantity.all cell.folded, target.quantityMatches term quantity = true

/-- A term is true of a row where some cell passes its test, or where none does if it is negated. -/
def TermTrue (target : Target) (index : Nat) (term : Term) : Prop :=
  target.SomeCell index (target.CellPasses term) ↔ term.negated = false

/-- No cell that is looked at in a row holds an excluded word; a word without a normal form excludes
nothing. -/
def HoldsNone (target : Target) (index : Nat) (excluded : TextSet) : Prop :=
  ∀ word ∈ excluded.toTexts, Text.normalize word ≠ [] →
    ¬target.SomeCell index fun cell =>
      Text.containsWord cell.normalized (Text.normalize word) = true

/-- All terms of an alternative that has terms are true of a row. -/
def AlternativeTrue (target : Target) (index : Nat) (alternative : Alternative) : Prop :=
  alternative.terms ≠ [] ∧ ∀ term ∈ alternative.terms, target.TermTrue index term

/-- The rows that a query selects when the rows of every excluded word and of every term are looked
at, whether or not they can still make a difference. -/
def fullRows (target : Target) (alternatives : List Alternative) (excluded : TextSet) : Selection :=
  let height := target.table.height
  let surviving := Selection.intersection height
    (excluded.toTexts.map fun word => (target.wordRows (Text.normalize word)).not)
  let terms := alternatives.filter fun alternative => !alternative.terms.isEmpty
  if alternatives.isEmpty then surviving
  else surviving.and (Selection.union height
    (terms.map fun alternative =>
      Selection.intersection height (alternative.terms.map target.termRows)))

/-! ## Rows and cells -/

/-- The cells of a row are those in the columns looked at. -/
theorem mem_cells_iff (isRow : target.table.rows[index]? = some row) {cell : Cell} :
    cell ∈ target.cells row ↔ ∃ column ∈ target.columns,
      target.table.cell? index column = some cell := by
  simp only [cells, List.mem_filterMap, Table.cell?, isRow, Option.bind_some]

/-- A row of which a cell passes is a row of the table. -/
theorem SomeCell.exists_row {passes : Cell → Prop} (found : target.SomeCell index passes) :
    ∃ row, target.table.rows[index]? = some row := by
  obtain ⟨column, -, cell, isCell, -⟩ := found
  obtain ⟨row, isRow, -⟩ := Option.bind_eq_some_iff.mp isCell
  exact ⟨row, isRow⟩

private theorem any_cells_iff (isRow : target.table.rows[index]? = some row) {test : Cell → Bool} :
    (target.cells row).any test = true ↔ target.SomeCell index fun cell => test cell = true := by
  simp only [List.any_eq_true, mem_cells_iff isRow, SomeCell]
  constructor
  · rintro ⟨cell, ⟨column, looked, isCell⟩, passes⟩
    exact ⟨column, looked, cell, isCell, passes⟩
  · rintro ⟨column, looked, cell, isCell, passes⟩
    exact ⟨cell, ⟨column, looked, isCell⟩, passes⟩

/-- A row has a word where the word stands in one of its cells. -/
theorem rowHasWord_iff (isRow : target.table.rows[index]? = some row) (word : Text) :
    target.rowHasWord word row = true ↔
      target.SomeCell index fun cell => Text.containsWord cell.normalized word = true :=
  any_cells_iff isRow

private theorem rowHasQuantity_iff (isRow : target.table.rows[index]? = some row) (term : Term) :
    target.rowHasQuantity term row = true ↔ target.SomeCell index fun cell =>
      ∃ quantity ∈ Quantity.all cell.folded, target.quantityMatches term quantity = true := by
  rw [rowHasQuantity, any_cells_iff isRow]
  simp only [List.any_eq_true]

/-! ## Terms, alternatives and excluded words -/

private theorem testHolds_iff (isRow : target.table.rows[index]? = some row) (term : Term) :
    target.testHolds term row = true ↔ target.SomeCell index (target.CellPasses term) := by
  unfold testHolds CellPasses
  cases term.test with
  | word word => exact rowHasWord_iff isRow word
  | compare comparison bound => exact rowHasQuantity_iff isRow term
  | range low high => exact rowHasQuantity_iff isRow term

/-- The terms that hold of a row are those that are true of it. -/
theorem termHolds_iff (isRow : target.table.rows[index]? = some row) (term : Term) :
    target.termHolds term row = true ↔ target.TermTrue index term := by
  rw [termHolds, TermTrue, ← testHolds_iff isRow]
  cases term.negated with
  | true => simp
  | false => simp

private theorem alternativeHolds_iff (isRow : target.table.rows[index]? = some row)
    (alternative : Alternative) :
    target.alternativeHolds alternative row = true ↔ target.AlternativeTrue index alternative := by
  simp only [alternativeHolds, AlternativeTrue, Bool.and_eq_true, Bool.not_eq_true',
    List.isEmpty_eq_false_iff, List.all_eq_true, termHolds_iff isRow]

private theorem survives_iff (isRow : target.table.rows[index]? = some row) (excluded : TextSet) :
    target.survives excluded row = true ↔ target.HoldsNone index excluded := by
  simp only [survives, HoldsNone, List.all_eq_true, Bool.not_eq_true']
  refine forall₂_congr fun word _ => ?_
  rw [← rowHasWord_iff isRow, Bool.not_eq_true]
  refine ⟨fun absent _ => absent, fun absent => ?_⟩
  by_cases empty : Text.normalize word = []
  · rw [empty, rowHasWord_nil]
  · exact absent empty

/-! ## Queries -/

/-- A query selects the rows of which what it says is true. -/
theorem contains_queryRows_iff (target : Target) (alternatives : List Alternative)
    (excluded : TextSet) (index : Nat) :
    (target.queryRows alternatives excluded).contains index = true ↔
      index < target.table.height ∧ target.HoldsNone index excluded ∧
        (alternatives = [] ∨
          ∃ alternative ∈ alternatives, target.AlternativeTrue index alternative) := by
  rw [queryRows_eq, rowsWhere, Selection.contains_ofTest_iff, Table.height]
  by_cases inside : index < target.table.rows.length
  · have isRow := List.getElem?_eq_getElem inside
    simp only [isRow, Option.some.injEq, exists_eq_left', queryHolds, Bool.and_eq_true,
      Bool.or_eq_true, List.isEmpty_iff, List.any_eq_true, survives_iff isRow,
      alternativeHolds_iff isRow, inside, true_and]
  · simp [inside]

/-- That an evaluation stops early does not show. -/
theorem queryRows_eq_fullRows (target : Target) (alternatives : List Alternative)
    (excluded : TextSet) :
    target.queryRows alternatives excluded = target.fullRows alternatives excluded := by
  have surviving : Selection.intersection target.table.height
      (excluded.toTexts.map fun word => (target.wordRows (Text.normalize word)).not) =
        target.rowsWhere (target.survives excluded) := by
    simp only [wordRows_eq, rowsWhere, Selection.not_ofTest]
    exact Selection.intersection_ofTest _ _
  have terms (alternative : Alternative) : Selection.intersection target.table.height
      (alternative.terms.map target.termRows) =
        Selection.ofTest target.table.rows fun row =>
          alternative.terms.all (target.termHolds · row) := by
    have rows : target.termRows = fun term => .ofTest target.table.rows (target.termHolds term) :=
      funext (termRows_eq target)
    rw [rows]
    exact Selection.intersection_ofTest _ _
  rw [queryRows_eq, fullRows]
  simp only [surviving, terms]
  cases unasked : alternatives.isEmpty with
  | true =>
      refine Selection.ofTest_congr fun row _ => ?_
      rw [queryHolds, unasked, Bool.true_or, Bool.and_true]
  | false =>
      -- The rows of the alternatives one by one make the rows of which some alternative holds.
      rw [if_neg Bool.false_ne_true, Table.height, Selection.union_ofTest]
      refine Eq.trans (Selection.ofTest_congr fun row _ => ?_) Selection.and_ofTest.symm
      rw [queryHolds, unasked, Bool.false_or, List.any_filter]
      rfl

/-- **What a query selects.** Where a table has the columns that are to be looked at, a query
selects one bit for each row, and a row is selected where none of its cells holds an excluded word
and, unless there are no alternatives, all terms of some alternative that has terms are true of it.
That the evaluation stops early does not show. -/
theorem queryRows_denotation {table : Table} {columns : List Nat}
    (inRange : ∀ column ∈ columns, column < table.width) (units : UnitTable) (role : TableRole) :
    let target : Target := ⟨table, columns, units⟩
    ofColumns table columns units role = .ok target ∧
      ∀ (alternatives : List Alternative) (excluded : TextSet),
        (target.queryRows alternatives excluded).height = table.height ∧
          (∀ index, (target.queryRows alternatives excluded).contains index = true ↔
            index < table.height ∧ target.HoldsNone index excluded ∧
              (alternatives = [] ∨
                ∃ alternative ∈ alternatives, target.AlternativeTrue index alternative)) ∧
          target.queryRows alternatives excluded = target.fullRows alternatives excluded := by
  intro target
  refine ⟨ofColumns_of_forall inRange units role, fun alternatives excluded => ⟨?_, ?_, ?_⟩⟩
  · exact height_queryRows target alternatives excluded
  · exact contains_queryRows_iff target alternatives excluded
  · exact queryRows_eq_fullRows target alternatives excluded

/-- Of four articles, two are bolts that are not made of stainless steel and not 12 mm wide. A
second alternative without terms adds nothing. -/
theorem queryRows_denotation_sample :
    let table := Table.ofTexts [Text.ofString "stock"]
      (["Perno 10 mm", "Perno inox", "Perno 12 mm", "Pérno M8"].map fun text =>
        [some (Text.ofString text)])
    let target : Target := ⟨table, [0], .empty⟩
    let bolt : Term := ⟨[], .word (Text.ofString "PERNO"), .none, false⟩
    let plain : Term := ⟨[], .word (Text.ofString "INOX"), .none, true⟩
    let alternatives : List Alternative := [⟨[], [bolt, plain]⟩, ⟨[], []⟩]
    let excluded := TextSet.ofTexts [Text.ofString "12!", Text.ofString "!"]
    (∀ column ∈ [0], column < table.width) ∧
      target.queryRows alternatives excluded = ⟨[true, false, false, true]⟩ ∧
      target.fullRows alternatives excluded = ⟨[true, false, false, true]⟩ ∧
      (target.HoldsNone 3 excluded ∧ target.AlternativeTrue 3 ⟨[], [bolt, plain]⟩) ∧
      ¬target.HoldsNone 2 excluded := by
  intro table target bolt plain alternatives excluded
  have inRange : ∀ column ∈ [0], column < table.width := by decide
  have rows : target.queryRows alternatives excluded = ⟨[true, false, false, true]⟩ := by
    decide +kernel
  have others : target.queryRows [] excluded = ⟨[true, true, false, true]⟩ := by decide +kernel
  obtain ⟨-, selects⟩ := queryRows_denotation inRange .empty .description
  obtain ⟨-, reading, full⟩ := selects alternatives excluded
  obtain ⟨-, excludes, -⟩ := selects [] excluded
  have last := (reading 3).mp (by rw [rows]; rfl)
  refine ⟨inRange, rows, full.symm.trans rows, ⟨last.2.1, ?_⟩, fun spared => ?_⟩
  · obtain nothing | ⟨alternative, member, isTrue⟩ := last.2.2
    · exact absurd nothing (List.cons_ne_nil _ _)
    · simp only [alternatives, List.mem_cons, List.not_mem_nil, or_false] at member
      obtain rfl | rfl := member
      · exact isTrue
      · exact absurd rfl isTrue.1
  · have selected := (excludes 2).mpr ⟨by decide, spared, .inl rfl⟩
    rw [others] at selected
    cases selected

end TableSearch.Target
