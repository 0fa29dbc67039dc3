import Mathlib.Data.List.Basic
import TableSearch.Table

/-!
# Tables read back from themselves

A table is regular when it has one kind a column, rows as wide as the table, and no cell of the
empty text. Main statement: every table that is made of texts or of what an owner presents is
regular, and a table is what it presents as an owner of data exactly where it is regular.
-/

namespace TableSearch

namespace Cell

/-- A cell is made of its own text, which is not empty. -/
theorem ofText?_eq_some_iff {raw : Option Text} {cell : Cell} :
    ofText? raw = some cell ↔ raw = some cell.raw ∧ cell.raw ≠ [] := by
  obtain ⟨text, folded, normalized, rfl, rfl⟩ := cell
  simp only [ofText?, Option.map_eq_some_iff, Option.filter_eq_some_iff, ofText, mk.injEq,
    Bool.not_eq_true', List.isEmpty_eq_false_iff]
  constructor
  · rintro ⟨other, ⟨rfl, nonempty⟩, rfl, -⟩
    exact ⟨rfl, nonempty⟩
  · rintro ⟨rfl, nonempty⟩
    exact ⟨text, ⟨rfl, nonempty⟩, rfl, rfl, rfl⟩

/-- A cell of some text is made of that text again. -/
theorem ofText?_map_raw {entry : Option Cell} (filled : ∀ cell ∈ entry, cell.raw ≠ []) :
    ofText? (entry.map raw) = entry := by
  cases entry with
  | none => rfl
  | some cell => exact ofText?_eq_some_iff.mpr ⟨rfl, filled cell rfl⟩

end Cell

namespace Table

variable {table : Table}

/-- One kind a column, rows as wide as the table, and cells of texts that are not empty, each with
the folding and the normal form of its text. -/
structure IsRegular (table : Table) : Prop where
  kinds_length : table.kinds.length = table.width
  row_length : ∀ row ∈ table.rows, row.length = table.width
  raw_ne_nil : ∀ row ∈ table.rows, ∀ cell, some cell ∈ row → cell.raw ≠ []
  forms : ∀ row ∈ table.rows, ∀ cell, some cell ∈ row →
    cell.folded = Text.fold cell.raw ∧ cell.normalized = Text.normalize cell.raw

/-- A table is regular where its cells are made of texts. -/
theorem isRegular_of_made (kinds : table.kinds.length = table.width)
    (width : ∀ row ∈ table.rows, row.length = table.width)
    (made : ∀ row ∈ table.rows, ∀ cell, some cell ∈ row → ∃ raw, Cell.ofText? raw = some cell) :
    table.IsRegular where
  kinds_length := kinds
  row_length := width
  raw_ne_nil row isRow cell isCell := by
    obtain ⟨raw, isMade⟩ := made row isRow cell isCell
    exact (Cell.ofText?_eq_some_iff.mp isMade).2
  forms _ _ cell _ := ⟨cell.folded_eq, cell.normalized_eq⟩

private theorem length_rowOfTexts (width : Nat) (texts : List (Option Text)) :
    (rowOfTexts width texts).length = width := by
  simp only [rowOfTexts, List.length_append, List.length_map, List.length_take,
    List.length_replicate]
  omega

/-- The cells of a row are made of the texts that the row is wide enough for. -/
theorem exists_of_mem_rowOfTexts {width : Nat} {texts : List (Option Text)} {cell : Cell}
    (isCell : some cell ∈ rowOfTexts width texts) : ∃ raw, Cell.ofText? raw = some cell := by
  rcases List.mem_append.mp isCell with kept | padded
  · obtain ⟨raw, -, made⟩ := List.mem_map.mp kept
    exact ⟨raw, made⟩
  · cases List.eq_of_mem_replicate padded

/-- A table of texts is regular, whatever the lengths of its rows. -/
theorem isRegular_ofTexts (columns : List Text) (texts : List (List (Option Text))) :
    (ofTexts columns texts).IsRegular := by
  apply isRegular_of_made
  · simp [ofTexts, width]
  · intro row isRow
    obtain ⟨raws, -, rfl⟩ := List.mem_map.mp isRow
    exact length_rowOfTexts _ _
  · intro row isRow cell isCell
    obtain ⟨raws, -, rfl⟩ := List.mem_map.mp isRow
    exact exists_of_mem_rowOfTexts isCell

/-- A table from a source is regular. -/
theorem isRegular_ofSource (source : TableSource) : (ofSource source).IsRegular := by
  apply isRegular_of_made
  · simp [ofSource, width]
  · intro row isRow
    obtain ⟨index, -, rfl⟩ := List.mem_map.mp isRow
    simp [ofSource, width]
  · intro row isRow cell isCell
    obtain ⟨index, -, rfl⟩ := List.mem_map.mp isRow
    obtain ⟨column, -, made⟩ := List.mem_map.mp isCell
    exact ⟨_, made⟩

/-! ## What a table presents -/

private theorem kinds_toSource (regular : table.IsRegular) :
    (List.range table.width).map table.toSource.kind = table.kinds := by
  refine List.ext_getElem ?_ fun column _ inside => ?_
  · rw [List.length_map, List.length_range, regular.kinds_length]
  · simp [toSource, kind?, inside]

/-- The row that a table presents at an index of its own. -/
theorem row_toSource (regular : table.IsRegular) {index : Nat} {row : List (Option Cell)}
    (isRow : table.rows[index]? = some row) :
    ((List.range table.width).map fun column => Cell.ofText? (table.toSource.cell index column)) =
      row := by
  have member := List.mem_of_getElem? isRow
  refine List.ext_getElem ?_ fun column _ inside => ?_
  · rw [List.length_map, List.length_range, regular.row_length row member]
  · have presented : table.toSource.cell index column = (row[column]).map Cell.raw := by
      simp [toSource, cell?, isRow, inside]
    rw [List.getElem_map, List.getElem_range, presented]
    apply Cell.ofText?_map_raw
    intro cell isCell
    exact regular.raw_ne_nil row member cell (isCell ▸ List.getElem_mem inside)

/-- A table is made of what it presents exactly where it is regular. -/
theorem ofSource_toSource_iff : ofSource table.toSource = table ↔ table.IsRegular := by
  constructor
  · intro same
    exact same ▸ isRegular_ofSource table.toSource
  · intro regular
    have rows : (ofSource table.toSource).rows = table.rows := by
      refine List.ext_getElem ?_ fun index _ inside => ?_
      · simp [ofSource, toSource, height]
      · simp only [ofSource, List.getElem_map, List.getElem_range]
        exact row_toSource regular (List.getElem?_eq_getElem inside)
    calc ofSource table.toSource
        = ⟨table.columns, (List.range table.width).map table.toSource.kind,
            (ofSource table.toSource).rows⟩ := rfl
      _ = table := by rw [kinds_toSource regular, rows]

/-- A cell keeps the text that it was made of; an empty text makes none. -/
theorem raw_ofText? (raw : Option Text) :
    (Cell.ofText? raw).map Cell.raw = raw.filter fun text => !text.isEmpty := by
  rw [Cell.ofText?, Option.map_map]
  exact congrFun Option.map_id _

/-- A row has the texts that it is wide enough for; the others are absent. -/
theorem getElem?_rowOfTexts (width : Nat) (texts : List (Option Text)) (column : Nat) :
    (rowOfTexts width texts)[column]?.join =
      if column < width then Cell.ofText? texts[column]?.join else none := by
  by_cases inside : column < width
  · rw [if_pos inside]
    by_cases given : column < texts.length
    · have kept : column < ((texts.take width).map Cell.ofText?).length := by
        rw [List.length_map, List.length_take]
        omega
      rw [rowOfTexts, List.getElem?_append_left kept]
      simp [inside, given]
    · have padded : ((texts.take width).map Cell.ofText?).length ≤ column := by
        rw [List.length_map, List.length_take]
        omega
      rw [rowOfTexts, List.getElem?_append_right padded, List.getElem?_replicate,
        List.getElem?_eq_none (Nat.not_lt.mp given)]
      split <;> rfl
  · have outside : (rowOfTexts width texts).length ≤ column := by
      rw [length_rowOfTexts]
      omega
    rw [if_neg inside, List.getElem?_eq_none outside]
    rfl

/-- A table of texts presents these texts, as far as it has columns, but for empty ones. -/
theorem cell_toSource_ofTexts (columns : List Text) (texts : List (List (Option Text)))
    (row column : Nat) :
    (ofTexts columns texts).toSource.cell row column =
      if column < columns.length then
        (((texts[row]?).bind (·[column]?)).join).filter fun text => !text.isEmpty
      else none := by
  simp only [toSource, cell?, ofTexts, List.getElem?_map]
  cases texts[row]? with
  | none => simp
  | some raws =>
      rw [Option.map_some, Option.bind_some, Option.bind_some, getElem?_rowOfTexts]
      split
      · exact raw_ofText? _
      · rfl

/-- A table of an owner's data presents the texts of the owner, but for empty ones. -/
theorem cell_toSource_ofSource (source : TableSource) (row column : Nat) :
    (ofSource source).toSource.cell row column =
      if row < source.rowCount ∧ column < source.columns.length then
        (source.cell row column).filter fun text => !text.isEmpty
      else none := by
  simp only [toSource, cell?, ofSource, List.getElem?_map]
  by_cases hasRow : row < source.rowCount
  · by_cases hasColumn : column < source.columns.length
    · simpa [hasRow, hasColumn] using raw_ofText? _
    · simp [hasRow, hasColumn]
  · simp [hasRow]

/-- **Tables survive their own reading.** A table made of rows of texts, and a table made of what an
owner presents, is regular, and the table made of what it presents itself is the same table. The
first presents the texts of its rows, the second those of its owner under the kinds that the owner
reports, each as far as there are columns and rows and without the empty texts. -/
theorem ofSource_toSource (columns : List Text) (texts : List (List (Option Text)))
    (source : TableSource) :
    let made := ofTexts columns texts
    let taken := ofSource source
    (ofSource made.toSource = made ∧ made.IsRegular) ∧
      (ofSource taken.toSource = taken ∧ taken.IsRegular) ∧
      (made.columns = columns ∧ made.height = texts.length ∧ ∀ row column,
        made.toSource.cell row column =
          if column < columns.length then
            (((texts[row]?).bind (·[column]?)).join).filter fun text => !text.isEmpty
          else none) ∧
      taken.columns = source.columns ∧ taken.height = source.rowCount ∧
      taken.kinds = (List.range source.columns.length).map source.kind ∧ ∀ row column,
        taken.toSource.cell row column =
          if row < source.rowCount ∧ column < source.columns.length then
            (source.cell row column).filter fun text => !text.isEmpty
          else none := by
  intro made taken
  have madeRegular := isRegular_ofTexts columns texts
  have takenRegular := isRegular_ofSource source
  refine ⟨⟨ofSource_toSource_iff.mpr madeRegular, madeRegular⟩,
    ⟨ofSource_toSource_iff.mpr takenRegular, takenRegular⟩,
    ⟨rfl, List.length_map _, cell_toSource_ofTexts columns texts⟩, rfl, ?_, rfl,
    cell_toSource_ofSource source⟩
  exact (List.length_map _).trans List.length_range

end Table

end TableSearch
