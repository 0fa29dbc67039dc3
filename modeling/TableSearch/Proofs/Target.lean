import TableSearch.Proofs.Selection
import TableSearch.Target

/-!
# When a row satisfies a query

Whether a row is selected depends on the row alone: it survives the excluded words, and all terms
of some alternative hold of it. That the evaluation stops early where nothing is left to narrow does
not show in its result. Main statement: a query selects the rows that satisfy it.
-/

namespace TableSearch.Target

variable {target : Target} {alternatives : List Alternative} {excluded : TextSet}
  {row : List (Option Cell)}

/-- The rows of the table that pass a test. -/
def rowsWhere (target : Target) (test : List (Option Cell) → Bool) : Selection :=
  .ofTest target.table.rows test

/-- Whether the test of a term holds of a row. -/
def testHolds (target : Target) (term : Term) (row : List (Option Cell)) : Bool :=
  match term.test with
  | .word word => target.rowHasWord word row
  | .compare _ _ => target.rowHasQuantity term row
  | .range _ _ => target.rowHasQuantity term row

/-- Whether a term holds of a row. -/
def termHolds (target : Target) (term : Term) (row : List (Option Cell)) : Bool :=
  if term.negated then !target.testHolds term row else target.testHolds term row

/-- Whether an alternative holds of a row: it has terms, and all of them hold. -/
def alternativeHolds (target : Target) (alternative : Alternative) (row : List (Option Cell)) :
    Bool :=
  !alternative.terms.isEmpty && alternative.terms.all (target.termHolds · row)

/-- Whether a row satisfies the term that a text stands for. -/
def holdsOf (target : Target) (text : Text) (row : List (Option Cell)) : Bool :=
  target.alternativeHolds ⟨text, (Term.classify target.units text).toList⟩ row

/-- Whether a row holds none of the excluded words. -/
def survives (target : Target) (excluded : TextSet) (row : List (Option Cell)) : Bool :=
  excluded.toTexts.all fun word => !target.rowHasWord (Text.normalize word) row

/-- Whether a row satisfies a query. -/
def queryHolds (target : Target) (alternatives : List Alternative) (excluded : TextSet)
    (row : List (Option Cell)) : Bool :=
  target.survives excluded row &&
    (alternatives.isEmpty || alternatives.any (target.alternativeHolds · row))

/-- A table with these columns makes a target of them. -/
theorem ofColumns_of_forall {table : Table} {columns : List Nat}
    (inRange : ∀ column ∈ columns, column < table.width) (units : UnitTable) (role : TableRole) :
    ofColumns table columns units role = .ok ⟨table, columns, units⟩ := by
  have found : columns.find? (table.width ≤ ·) = .none := by
    rw [List.find?_eq_none]
    intro column member beyond
    exact absurd (inRange column member) (Nat.not_lt.mpr (of_decide_eq_true beyond))
  rw [ofColumns, found]

/-! ## Terms -/

/-- The empty text is a word of no cell. -/
theorem rowHasWord_nil (target : Target) (row : List (Option Cell)) :
    target.rowHasWord [] row = false := by
  rw [rowHasWord, List.any_eq_false]
  intro cell _
  rw [Text.containsWord]
  exact Bool.false_ne_true

theorem wordRows_eq (target : Target) (word : Text) :
    target.wordRows word = target.rowsWhere (target.rowHasWord word) := rfl

/-- A term selects the rows of which it holds. -/
theorem termRows_eq (target : Target) (term : Term) :
    target.termRows term = target.rowsWhere (target.termHolds term) := by
  have test : target.testRows term = target.rowsWhere (target.testHolds term) := by
    rw [testRows, rowsWhere]
    unfold testHolds
    cases term.test <;> rfl
  rw [termRows, test]
  unfold termHolds
  cases term.negated with
  | true => exact Selection.not_ofTest
  | false => rfl

/-- That narrowing stops early does not show. -/
theorem narrowedBy_eq (target : Target) (test : List (Option Cell) → Bool) (terms : List Term) :
    target.narrowedBy (target.rowsWhere test) terms =
      target.rowsWhere fun row => test row && terms.all (target.termHolds · row) := by
  induction terms generalizing test with
  | nil => exact Selection.ofTest_congr fun row _ => (Bool.and_true _).symm
  | cons term rest ih =>
      have narrowed : (target.rowsWhere test).and (target.termRows term) =
          target.rowsWhere fun row => test row && target.termHolds term row := by
        rw [termRows_eq]
        exact Selection.and_ofTest
      have regroup : (target.rowsWhere fun row =>
            (test row && target.termHolds term row) && rest.all (target.termHolds · row)) =
          target.rowsWhere fun row => test row && (term :: rest).all (target.termHolds · row) :=
        Selection.ofTest_congr fun row _ => by rw [List.all_cons, Bool.and_assoc]
      rw [narrowedBy, narrowed, ← regroup]
      by_cases nothing : (target.rowsWhere fun row =>
          test row && target.termHolds term row).isEmpty = true
      · simp only [nothing, ↓reduceIte]
        refine Selection.none_eq_ofTest.trans (Selection.ofTest_congr fun row member => ?_)
        rw [Selection.isEmpty_ofTest_iff.mp nothing row member, Bool.false_and]
      · simp only [nothing]
        exact ih _

/-- Terms select the rows of which they all hold. -/
theorem allTermsRows_eq (target : Target) (terms : List Term) :
    target.allTermsRows terms = target.rowsWhere fun row => terms.all (target.termHolds · row) := by
  rw [allTermsRows, all, Table.height, Selection.all_eq_ofTest]
  refine (narrowedBy_eq target (fun _ => true) terms).trans ?_
  exact Selection.ofTest_congr fun row _ => Bool.true_and _

/-! ## Alternatives -/

/-- A text that stands for a term is satisfied where the term holds. -/
theorem holdsOf_of_classify {text : Text} {term : Term}
    (isTerm : Term.classify target.units text = some term) :
    target.holdsOf text row = target.termHolds term row := by
  rw [holdsOf, isTerm]
  exact Bool.and_true _

/-- The rows that satisfy some alternative. -/
theorem alternativesRows_eq (target : Target) (alternatives : List Alternative) :
    target.alternativesRows alternatives =
      target.rowsWhere fun row => alternatives.any (target.alternativeHolds · row) := by
  have termsRows : (fun (selection : Selection) (alternative : Alternative) =>
        selection.or (target.allTermsRows alternative.terms)) =
      fun selection alternative => selection.or (.ofTest target.table.rows
        fun row => alternative.terms.all (target.termHolds · row)) := by
    funext selection alternative
    rw [allTermsRows_eq]
    rfl
  rw [alternativesRows, none, Table.height, Selection.none_eq_ofTest, termsRows]
  refine (Selection.foldl_or _ _ fun (alternative : Alternative) row =>
    alternative.terms.all (target.termHolds · row)).trans (Selection.ofTest_congr fun row _ => ?_)
  rw [Bool.false_or, List.any_filter]
  rfl

/-! ## Excluded words -/

/-- The rows that survive the excluded words. -/
theorem survivingRows_eq (target : Target) (excluded : TextSet) :
    target.survivingRows excluded = target.rowsWhere (target.survives excluded) := by
  have wordsRows : (fun (selection : Selection) (word : Text) =>
        selection.and (target.wordRows word).not) =
      fun selection word => selection.and (.ofTest target.table.rows
        fun row => !target.rowHasWord word row) := by
    funext selection word
    rw [wordRows_eq, rowsWhere, Selection.not_ofTest]
  rw [survivingRows, all, Table.height, Selection.all_eq_ofTest, wordsRows]
  refine (Selection.foldl_and _ _ fun word row => !target.rowHasWord word row).trans
    (Selection.ofTest_congr fun row _ => ?_)
  rw [Bool.true_and, List.all_filter, List.all_map, survives]
  refine congrArg excluded.toTexts.all (funext fun word => ?_)
  -- An excluded word whose normal form is empty is passed over; it would be a word of no cell.
  cases empty : (Text.normalize word).isEmpty with
  | true =>
      rw [Function.comp, empty, List.isEmpty_iff.mp empty, rowHasWord_nil]
      rfl
  | false =>
      rw [Function.comp, empty]
      rfl

/-! ## Queries -/

/-- A query selects the rows that satisfy it. -/
theorem queryRows_eq (target : Target) (alternatives : List Alternative) (excluded : TextSet) :
    target.queryRows alternatives excluded =
      target.rowsWhere (target.queryHolds alternatives excluded) := by
  rw [queryRows, survivingRows_eq]
  by_cases unasked : alternatives.isEmpty = true
  · simp only [unasked, Bool.true_or, ↓reduceIte]
    refine Selection.ofTest_congr fun row _ => ?_
    rw [queryHolds, unasked, Bool.true_or, Bool.and_true]
  · by_cases nothing : (target.rowsWhere (target.survives excluded)).isEmpty = true
    · simp only [nothing, Bool.or_true, ↓reduceIte]
      refine Selection.ofTest_congr fun row member => ?_
      rw [queryHolds, Selection.isEmpty_ofTest_iff.mp nothing row member, Bool.false_and]
    · simp only [unasked, nothing, Bool.or_self, Bool.false_eq_true, ↓reduceIte]
      rw [alternativesRows_eq]
      refine Selection.and_ofTest.trans (Selection.ofTest_congr fun row _ => ?_)
      rw [queryHolds, Bool.eq_false_iff.mpr unasked, Bool.false_or]

/-- The selection of a query has one bit for each row of the table. -/
theorem height_queryRows (target : Target) (alternatives : List Alternative) (excluded : TextSet) :
    (target.queryRows alternatives excluded).height = target.table.height := by
  rw [queryRows_eq]
  exact Selection.height_ofTest

/-- The selection of the rows that survive has one bit for each row of the table. -/
theorem height_survivingRows (target : Target) (excluded : TextSet) :
    (target.survivingRows excluded).height = target.table.height := by
  rw [survivingRows_eq]
  exact Selection.height_ofTest

/-! ## Columns as a set -/

/-- Two targets look alike at a row: they look at the same columns, in whatever order, and know the
same units. -/
structure Alike (first second : Target) : Prop where
  mem_columns : ∀ column, column ∈ first.columns ↔ column ∈ second.columns
  units_eq : first.units = second.units

variable {first second : Target}

/-- Alike targets look at the same cells of a row. -/
theorem Alike.mem_cells (alike : first.Alike second) {cell : Cell} :
    cell ∈ first.cells row ↔ cell ∈ second.cells row := by
  rw [cells, cells, List.mem_filterMap, List.mem_filterMap]
  simp only [alike.mem_columns]

/-- What some cell of a row passes does not hang on the order of the cells. -/
theorem Alike.any_cells (alike : first.Alike second) (test : Cell → Bool) :
    (first.cells row).any test = (second.cells row).any test := by
  rw [Bool.eq_iff_iff, List.any_eq_true, List.any_eq_true]
  simp only [alike.mem_cells]

private theorem Alike.rowHasWord (alike : first.Alike second) (word : Text) :
    first.rowHasWord word row = second.rowHasWord word row :=
  alike.any_cells _

private theorem Alike.rowHasQuantity (alike : first.Alike second) (term : Term) :
    first.rowHasQuantity term row = second.rowHasQuantity term row := by
  have sameTest : first.quantityMatches term = second.quantityMatches term := by
    funext quantity
    rw [quantityMatches, quantityMatches]
    unfold unitMatches
    rw [alike.units_eq]
  rw [Target.rowHasQuantity, Target.rowHasQuantity, sameTest]
  exact alike.any_cells _

private theorem Alike.termHolds (alike : first.Alike second) (term : Term) :
    first.termHolds term row = second.termHolds term row := by
  have sameTest : first.testHolds term row = second.testHolds term row := by
    unfold testHolds
    cases term.test with
    | word word => exact alike.rowHasWord word
    | compare comparison bound => exact alike.rowHasQuantity term
    | range low high => exact alike.rowHasQuantity term
  rw [Target.termHolds, Target.termHolds, sameTest]

/-- An alternative holds of the same rows for alike targets. -/
theorem Alike.alternativeHolds (alike : first.Alike second) (alternative : Alternative) :
    first.alternativeHolds alternative row = second.alternativeHolds alternative row := by
  rw [Target.alternativeHolds, Target.alternativeHolds]
  simp only [alike.termHolds]

/-- The same rows survive the excluded words for alike targets. -/
theorem Alike.survives (alike : first.Alike second) (excluded : TextSet) :
    first.survives excluded row = second.survives excluded row := by
  rw [Target.survives, Target.survives]
  simp only [alike.rowHasWord]

/-- Targets that look alike at a row judge it alike. -/
theorem Alike.queryHolds (alike : first.Alike second) (alternatives : List Alternative)
    (excluded : TextSet) :
    first.queryHolds alternatives excluded row = second.queryHolds alternatives excluded row := by
  rw [Target.queryHolds, Target.queryHolds, alike.survives]
  simp only [alike.alternativeHolds]

/-- The same rows pass a test in both tables, so one has such a row where the other has. -/
theorem isEmpty_rowsWhere_congr (sameRows : ∀ row, row ∈ first.table.rows ↔ row ∈ second.table.rows)
    (test : List (Option Cell) → Bool) :
    (first.rowsWhere test).isEmpty = (second.rowsWhere test).isEmpty := by
  rw [Bool.eq_iff_iff, rowsWhere, rowsWhere, Selection.isEmpty_ofTest_iff,
    Selection.isEmpty_ofTest_iff]
  simp only [sameRows]

/-- What a query selects can be told from an alike target. -/
theorem Alike.queryRows (alike : first.Alike second) (alternatives : List Alternative)
    (excluded : TextSet) :
    first.queryRows alternatives excluded =
      first.rowsWhere (second.queryHolds alternatives excluded) := by
  rw [queryRows_eq]
  exact Selection.ofTest_congr fun row _ => alike.queryHolds _ _

/-- Alternatives select the same rows of one table for alike targets. -/
theorem Alike.alternativesRows (alike : first.Alike second) (sameTable : first.table = second.table)
    (alternatives : List Alternative) :
    first.alternativesRows alternatives = second.alternativesRows alternatives := by
  rw [alternativesRows_eq, alternativesRows_eq, rowsWhere, rowsWhere, sameTable]
  simp only [alike.alternativeHolds]

/-- The same rows of one table survive for alike targets. -/
theorem Alike.survivingRows (alike : first.Alike second) (sameTable : first.table = second.table)
    (excluded : TextSet) : first.survivingRows excluded = second.survivingRows excluded := by
  rw [survivingRows_eq, survivingRows_eq, rowsWhere, rowsWhere, sameTable]
  exact Selection.ofTest_congr fun row _ => alike.survives excluded

end TableSearch.Target
