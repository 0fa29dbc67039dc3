import TableSearch.Selection

/-!
# Selections by a test

A selection of the rows that pass a test is what every operation on selections makes of such
selections. So equations between selections are equations between tests.
-/

namespace TableSearch.Selection

variable {Row : Type} {rows : List Row} {first second : Row → Bool}

/-- The rows that pass a test. -/
def ofTest (rows : List Row) (test : Row → Bool) : Selection :=
  ⟨rows.map test⟩

/-- The rows that some of the selections of a table select. -/
def union (height : Nat) (selections : List Selection) : Selection :=
  selections.foldl or (none height)

/-- The rows that all of the selections of a table select. -/
def intersection (height : Nat) (selections : List Selection) : Selection :=
  selections.foldl and (all height)

/-- Every row of one selection is a row of another. -/
def IsWithin (inner outer : Selection) : Prop :=
  ∀ index, inner.contains index = true → outer.contains index = true

/-- Selections by two tests are equal where the tests agree on all rows. -/
theorem ofTest_eq_ofTest_iff :
    ofTest rows first = ofTest rows second ↔ ∀ row ∈ rows, first row = second row := by
  rw [ofTest, ofTest, mk.injEq, List.map_inj_left]

/-- Tests that agree on all rows select the same rows. -/
theorem ofTest_congr (same : ∀ row ∈ rows, first row = second row) :
    ofTest rows first = ofTest rows second :=
  ofTest_eq_ofTest_iff.mpr same

/-- All rows are those that pass the test that accepts each. -/
theorem all_eq_ofTest : all rows.length = ofTest rows fun _ => true := by
  rw [all, ofTest, List.map_const']

/-- No row is what the test that accepts none selects. -/
theorem none_eq_ofTest : none rows.length = ofTest rows fun _ => false := by
  rw [none, ofTest, List.map_const']

/-- The rows that two tests both select are those that pass both. -/
theorem and_ofTest :
    (ofTest rows first).and (ofTest rows second) =
      ofTest rows fun row => first row && second row := by
  rw [and, ofTest, ofTest, ofTest, List.zipWith_map, List.zipWith_self]

/-- The rows that either of two tests selects are those that pass one of them. -/
theorem or_ofTest :
    (ofTest rows first).or (ofTest rows second) =
      ofTest rows fun row => first row || second row := by
  rw [or, ofTest, ofTest, ofTest, List.zipWith_map, List.zipWith_self]

/-- The rows that a test does not select are those that fail it. -/
theorem not_ofTest : (ofTest rows first).not = ofTest rows fun row => !first row := by
  rw [not, ofTest, ofTest, List.map_map]
  rfl

/-- A selection is empty where no row passes. -/
theorem isEmpty_ofTest_iff :
    (ofTest rows first).isEmpty = true ↔ ∀ row ∈ rows, first row = false := by
  rw [isEmpty, ofTest, List.any_map, Bool.not_eq_true', List.any_eq_false]
  exact forall₂_congr fun row _ => by simp

/-- A selection has rows where some row passes. -/
theorem isEmpty_ofTest_eq_false_iff :
    (ofTest rows first).isEmpty = false ↔ ∃ row ∈ rows, first row = true := by
  rw [← Bool.not_eq_true, isEmpty_ofTest_iff]
  simp only [Classical.not_forall, exists_prop, Bool.not_eq_false]

/-- A row is selected where it passes the test. -/
theorem contains_ofTest_iff {index : Nat} :
    (ofTest rows first).contains index = true ↔
      ∃ row, rows[index]? = some row ∧ first row = true := by
  rw [contains, ofTest, List.getElem?_map]
  cases rows[index]? with
  | none => simp
  | some row => simp

/-- The rows of a stronger test are rows of the weaker one. -/
theorem ofTest_isWithin (passes : ∀ row ∈ rows, first row = true → second row = true) :
    (ofTest rows first).IsWithin (ofTest rows second) := by
  intro index selected
  obtain ⟨row, isRow, isSelected⟩ := contains_ofTest_iff.mp selected
  exact contains_ofTest_iff.mpr ⟨row, isRow, passes row (List.mem_of_getElem? isRow) isSelected⟩

/-! ## Single rows -/

variable {left right : Selection} {index : Nat}

theorem contains_none (height index : Nat) : (none height).contains index = false := by
  rw [contains, none, List.getElem?_replicate]
  split <;> rfl

/-- A row is selected by both where each selects it. -/
theorem contains_and_iff : (left.and right).contains index = true ↔
    left.contains index = true ∧ right.contains index = true := by
  rw [contains, contains, contains, and, List.getElem?_zipWith]
  cases left.bits[index]? with
  | none => simp
  | some first =>
      cases right.bits[index]? with
      | none => simp
      | some second => simp

/-- A row that is selected by either of two selections is selected by one of them. -/
theorem contains_or : (left.or right).contains index = true →
    left.contains index = true ∨ right.contains index = true := by
  rw [contains, contains, contains, or, List.getElem?_zipWith]
  cases left.bits[index]? with
  | none => simp
  | some first =>
      cases right.bits[index]? with
      | none => simp
      | some second => simp

/-- Of selections of one table, a row is selected by either where it is selected by one. -/
theorem contains_or_iff (same : left.height = right.height) :
    (left.or right).contains index = true ↔
      left.contains index = true ∨ right.contains index = true := by
  refine ⟨contains_or, ?_⟩
  rw [contains, contains, contains, or, List.getElem?_zipWith]
  rw [height, height] at same
  by_cases inside : index < left.bits.length
  · have insideRight : index < right.bits.length := same ▸ inside
    simp [inside, insideRight]
  · have outsideRight : ¬index < right.bits.length := same ▸ inside
    simp [inside, outsideRight]

/-- The indices of a selection are those of its rows. -/
theorem mem_indices_iff : index ∈ left.indices ↔ left.contains index = true := by
  simp only [indices, contains, List.mem_filterMap, Prod.exists, List.mem_zipIdx_iff_getElem?,
    Option.ite_none_right_eq_some, Option.some.injEq, Option.getD_eq_iff]
  constructor
  · rintro ⟨selected, row, isBit, isSelected, rfl⟩
    exact .inl (isSelected ▸ isBit)
  · rintro (isBit | ⟨-, isFalse⟩)
    · exact ⟨true, index, isBit, rfl, rfl⟩
    · cases isFalse

/-- The indices of the selected rows ascend. -/
theorem pairwise_indices : left.indices.Pairwise (· < ·) := by
  have picked : left.indices = (left.bits.zipIdx.filter Prod.fst).map Prod.snd := by
    rw [indices, ← List.filterMap_eq_map, List.filterMap_filter]
    congr 1
  have rows : (left.bits.zipIdx.map Prod.snd).Pairwise (· < ·) := by
    rw [List.zipIdx_map_snd]
    exact List.pairwise_lt_range'
  rw [picked]
  exact rows.sublist (List.filter_sublist.map _)

/-! ## Sizes -/

@[simp] theorem height_none (height : Nat) : (none height).height = height :=
  List.length_replicate

@[simp] theorem height_all (height : Nat) : (all height).height = height :=
  List.length_replicate

/-- A selection by a test has one bit a row. -/
theorem height_ofTest : (ofTest rows first).height = rows.length :=
  List.length_map _

/-- Narrowing a selection by another of its height keeps the height. -/
theorem height_and (same : left.height = right.height) : (left.and right).height = left.height := by
  simp only [height, and, List.length_zipWith] at same ⊢
  omega

/-- Widening a selection by another of its height keeps the height. -/
theorem height_or (same : left.height = right.height) : (left.or right).height = left.height := by
  simp only [height, or, List.length_zipWith] at same ⊢
  omega

@[simp] theorem isEmpty_none (height : Nat) : (none height).isEmpty = true := by
  simp [isEmpty, none]

/-- A selection is not empty where some row is selected. -/
theorem isEmpty_eq_false_iff :
    left.isEmpty = false ↔ ∃ index, left.contains index = true := by
  simp only [isEmpty, Bool.not_eq_false', List.any_eq_true, id, exists_eq_right, contains,
    List.mem_iff_getElem?, Option.getD_eq_iff]
  simp

/-- With the rows of a second selection added, a selection is as little empty as the second. -/
theorem isEmpty_or_eq_false (same : left.height = right.height)
    (someRow : right.isEmpty = false) : (left.or right).isEmpty = false := by
  obtain ⟨index, selected⟩ := isEmpty_eq_false_iff.mp someRow
  refine isEmpty_eq_false_iff.mpr ⟨index, contains_or_iff same |>.mpr (.inr selected)⟩

/-- A selection that is not empty counts at least one row. -/
theorem count_pos_of_isEmpty (someRow : left.isEmpty = false) : 1 ≤ left.count := by
  rw [isEmpty, Bool.not_eq_false', List.any_eq_true] at someRow
  obtain ⟨selected, member, isSelected⟩ := someRow
  exact List.count_pos_iff.mpr (isSelected ▸ member)

/-- No row is added. -/
theorem none_or {height : Nat} (same : right.height = height) : (none height).or right = right := by
  rw [Selection.height] at same
  rw [or, none, ← same, ← List.map_const', List.zipWith_map_left, List.zipWith_self]
  simp

/-! ## Many selections -/

variable {Item : Type}

/-- Widening step by step selects the rows that pass one of the tests. -/
theorem foldl_or (items : List Item) (start : Row → Bool) (test : Item → Row → Bool) :
    items.foldl (fun selection item => selection.or (ofTest rows (test item)))
        (ofTest rows start) =
      ofTest rows fun row => start row || items.any (test · row) := by
  induction items generalizing start with
  | nil => exact ofTest_congr fun row _ => (Bool.or_false _).symm
  | cons item rest ih =>
      rw [List.foldl_cons, or_ofTest, ih]
      exact ofTest_congr fun row _ => by rw [List.any_cons, Bool.or_assoc]

/-- Narrowing step by step selects the rows that pass all of the tests. -/
theorem foldl_and (items : List Item) (start : Row → Bool) (test : Item → Row → Bool) :
    items.foldl (fun selection item => selection.and (ofTest rows (test item)))
        (ofTest rows start) =
      ofTest rows fun row => start row && items.all (test · row) := by
  induction items generalizing start with
  | nil => exact ofTest_congr fun row _ => (Bool.and_true _).symm
  | cons item rest ih =>
      rw [List.foldl_cons, and_ofTest, ih]
      exact ofTest_congr fun row _ => by rw [List.all_cons, Bool.and_assoc]

/-- A union of selections by tests selects the rows that pass one of them. -/
theorem union_ofTest (items : List Item) (test : Item → Row → Bool) :
    union rows.length (items.map fun item => ofTest rows (test item)) =
      ofTest rows fun row => items.any (test · row) := by
  rw [union, none_eq_ofTest, List.foldl_map, foldl_or]
  exact ofTest_congr fun row _ => Bool.false_or _

/-- An intersection of selections by tests selects the rows that pass all of them. -/
theorem intersection_ofTest (items : List Item) (test : Item → Row → Bool) :
    intersection rows.length (items.map fun item => ofTest rows (test item)) =
      ofTest rows fun row => items.all (test · row) := by
  rw [intersection, all_eq_ofTest, List.foldl_map, foldl_and]
  exact ofTest_congr fun row _ => Bool.true_and _

end TableSearch.Selection
