import TableSearch.Proofs.Search.Consistency
import TableSearch.Proofs.TableSource
import TableSearch.Proofs.Text.Lines
import TableSearch.Report

/-!
# Reading a report

The text of a report is read back line by line: the table begins at the first line with a tab, which
holds the column names, and each line behind it is a row. Main statement: the rows are read back
exactly where no name and no cell that is written holds a tab or a line feed.
-/

namespace TableSearch

open Text

/-! ## The status lines -/

/-- The message of an error has no tab and no line feed, even where it quotes the query. -/
theorem SearchError.isField_message (cause : SearchError) : IsField (ofString cause.message) := by
  have isRole (role : TableRole) : IsField (ofString role.name) := by
    cases role <;> decide
  unfold message
  cases cause with
  | noUsableColumns role =>
      rw [isField_ofString_append_iff]
      exact ⟨isRole role, by decide⟩
  | columnOutOfRange role index width =>
      simp only [isField_ofString_append_iff]
      exact ⟨⟨⟨⟨⟨isRole role, by decide⟩, isField_toString index⟩, by decide⟩,
        isField_toString width⟩, by decide⟩
  | invalidTerm query =>
      have shown : IsField (ofString (String.ofList (quoted query))) := by
        rw [ofString, String.toList_ofList]
        exact isField_quoted query
      simp only [isField_ofString_append_iff]
      exact ⟨⟨by decide, shown⟩, by decide⟩
  | missingColumn role column =>
      simp only [isField_ofString_append_iff]
      exact ⟨⟨⟨isRole role, by decide⟩, isField_toString column⟩, by decide⟩

namespace Outcome

private theorem isField_statement (outcome : Outcome) : IsField (ofString outcome.statement) := by
  unfold statement
  cases outcome with
  | everything => decide
  | noDictionaryRow _ => exact (by decide : IsField (ofString "no dictionary row matched"))
  | noWords dictionaryRows _ =>
      exact isField_ofString_append_iff.mpr ⟨isField_toString dictionaryRows, by decide⟩
  | noDescription words _ =>
      exact isField_ofString_append_iff.mpr ⟨isField_toString words, by decide⟩
  | described rows words _ =>
      simp only [isField_ofString_append_iff]
      exact ⟨⟨⟨isField_toString rows.count, by decide⟩, isField_toString words⟩, by decide⟩
  | direct rows =>
      exact isField_ofString_append_iff.mpr ⟨isField_toString rows.count, by decide⟩
  | noDirect => decide
  | failure cause =>
      have isKind : IsField (ofString cause.kind.name) := by
        cases cause.kind <;> decide
      simp only [isField_ofString_append_iff]
      exact ⟨⟨isKind, by decide⟩, cause.isField_message⟩

/-- The message of an outcome has no tab and no line feed. -/
theorem isField_message (outcome : Outcome) : IsField (ofString outcome.message) := by
  rw [message]
  split
  · exact isField_ofString_append_iff.mpr ⟨outcome.isField_statement, by decide⟩
  · exact outcome.isField_statement

private theorem isField_label (outcome : Outcome) : IsField (ofString outcome.label) := by
  unfold label
  split <;> decide

end Outcome

namespace Report

variable {report : Report} {query text : Text} {response : Response} {table : Table}

/-- A status line of a report on a response is one line, in which no tab stands. -/
theorem exists_of_mem_statusLines {line : Text}
    (isStatus : line ∈ (ofResponse query response table).statusLines) :
    ∃ content, line = content ++ ['\n'] ∧ IsField content := by
  rw [statusLines, List.mem_append, List.mem_append] at isStatus
  rcases isStatus with (isOutcome | isMatches) | isHint
  · refine ⟨ofString ("outcome: " ++ response.outcome.message ++ " (" ++ response.outcome.label ++
      ")"), ?_, ?_⟩
    · rw [List.mem_singleton.mp isOutcome]
      simp only [ofString, ofResponse, String.toList_append, List.append_assoc]
      rfl
    · simp only [isField_ofString_append_iff]
      exact ⟨⟨⟨⟨by decide, response.outcome.isField_message⟩, by decide⟩,
        response.outcome.isField_label⟩, by decide⟩
  · cases matched : (ofResponse query response table).dictionaryMatches with
    | none =>
        rw [matched] at isMatches
        cases isMatches
    | some rows =>
        rw [matched] at isMatches
        refine ⟨ofString ("dictionary matches: " ++ toString rows.length), ?_,
          isField_ofString_append_iff.mpr ⟨by decide, isField_toString rows.length⟩⟩
        rw [List.mem_singleton.mp isMatches]
        simp only [ofString, String.toList_append]
        rfl
  · split at isHint
    · exact ⟨ofString "hint: rerun with --direct to search the descriptions directly",
        List.mem_singleton.mp isHint, by decide⟩
    · cases isHint

/-! ## The rows that are shown -/

variable {row : ReportRow}

/-- A row of a report is the row of the table at its index. -/
theorem row?_of_mem_rows (isRow : row ∈ (ofResponse query response table).rows) :
    table.row? row.index = some row.cells := by
  obtain ⟨index, -, shown⟩ := List.mem_filterMap.mp isRow
  obtain ⟨cells, found, rfl⟩ := Option.map_eq_some_iff.mp shown
  exact found

/-- A row of a report has a cell for each column. -/
theorem length_cells (regular : table.IsRegular)
    (isRow : row ∈ (ofResponse query response table).rows) : row.cells.length = table.width := by
  obtain ⟨cells, found, same⟩ := Option.map_eq_some_iff.mp (row?_of_mem_rows isRow)
  rw [← same, List.length_map]
  exact regular.row_length cells (List.mem_of_getElem? found)

/-- The cells that are shown of a regular table are absent or hold text. -/
theorem some_nil_not_mem_cells (regular : table.IsRegular)
    (isRow : row ∈ (ofResponse query response table).rows) : some [] ∉ row.cells := by
  obtain ⟨cells, found, same⟩ := Option.map_eq_some_iff.mp (row?_of_mem_rows isRow)
  rw [← same]
  intro inside
  obtain ⟨entry, isEntry, isEmpty⟩ := List.mem_map.mp inside
  obtain ⟨cell, rfl, empty⟩ := Option.map_eq_some_iff.mp isEmpty
  exact regular.raw_ne_nil cells (List.mem_of_getElem? found) cell isEntry empty

/-- A report shows all rows that are selected. -/
theorem map_index_rows (sized : response.rows.height = table.height) :
    (ofResponse query response table).rows.map ReportRow.index = response.rows.indices := by
  rw [ofResponse, List.map_filterMap]
  have shown : ∀ index ∈ response.rows.indices,
      ((table.row? index).map fun cells => ReportRow.mk index cells).map ReportRow.index =
        some index := by
    intro index isSelected
    have inside : index < table.rows.length := by
      rw [Selection.mem_indices_iff, Selection.contains] at isSelected
      rw [Table.height, Selection.height] at sized
      by_contra outside
      rw [List.getElem?_eq_none (by omega)] at isSelected
      cases isSelected
    rw [Table.row?, List.getElem?_eq_getElem inside]
    rfl
  rw [List.filterMap_congr shown, List.filterMap_some]

/-! ## The table -/

/-- The names and cells that a report writes, field by field. -/
def tableFields (report : Report) : List (List Text) :=
  if report.rows.isEmpty then []
  else (ofString "row" :: report.columns) ::
    report.rows.map fun row => ofNat row.index :: row.cells.map (Option.getD · [])

/-- The fields of the table in the text of a report: its lines from the first with a tab on, cut at
their tabs. -/
def tableIn (text : Text) : List (List Text) :=
  ((lines text).dropWhile fun line => !line.contains '\t').map (·.splitOn '\t')

/-- The row that the fields of a line show; an empty field is an absent cell. -/
def rowOfFields? : List Text → Option ReportRow
  | [] => none
  | index :: cells =>
      some ⟨decimalValue index, cells.map fun cell => if cell.isEmpty then none else some cell⟩

/-- The rows in the text of a report. -/
def rowsIn (text : Text) : List ReportRow :=
  (tableIn text).tail.filterMap rowOfFields?

/-- Where rows are shown, there are columns, and no name and no cell holds a tab or a line feed. -/
def IsLegible (report : Report) : Prop :=
  report.rows = [] ∨ report.columns ≠ [] ∧ (∀ name ∈ report.columns, IsField name) ∧
    ∀ row ∈ report.rows, ∀ cell ∈ row.cells, ∀ text ∈ cell, IsField text

instance (report : Report) : Decidable report.IsLegible :=
  inferInstanceAs (Decidable (_ ∨ _))

/-- What is read from a text holds no tab and no line feed. -/
theorem isField_of_mem_tableIn {fields : List Text} {field : Text} (isLine : fields ∈ tableIn text)
    (isCut : field ∈ fields) : IsField field := by
  obtain ⟨line, inTable, rfl⟩ := List.mem_map.mp isLine
  have inText : line ∈ text.splitOn '\n' :=
    List.dropLast_subset _ ((List.dropWhile_sublist _).subset inTable)
  exact ⟨not_mem_of_mem_splitOn isCut, fun inside =>
    not_mem_of_mem_splitOn inText (mem_of_mem_splitOn isCut inside)⟩

/-- The first line that is read from a text has more than one field. -/
theorem tableIn_ne_cons_singleton (label : Text) (rest : List (List Text)) :
    tableIn text ≠ [label] :: rest := by
  rw [tableIn]
  cases begins : (lines text).dropWhile fun line => !line.contains '\t' with
  | nil => exact (List.cons_ne_nil _ _).symm
  | cons line more =>
      have stops := List.head_dropWhile_not (fun line : Text => !line.contains '\t')
        (l := lines text) (begins ▸ List.cons_ne_nil line more)
      simp only [begins, List.head_cons, Bool.not_eq_false', List.contains_iff_mem] at stops
      intro same
      exact splitOn_ne_singleton stops label (List.cons.inj same).1

/-- A line with fields behind its label is these fields, joined with tabs. -/
theorem line_eq {fields : List Text} (nonempty : fields ≠ []) (label : Text) :
    line label fields = joined ['\t'] (label :: fields) ++ ['\n'] := by
  rw [line, joined_cons nonempty]

/-- What a legible report writes holds no tab and no line feed. -/
theorem IsLegible.isField (legible : report.IsLegible) {fields : List Text} {field : Text}
    (isLine : fields ∈ report.tableFields) (isWritten : field ∈ fields) : IsField field := by
  rw [tableFields] at isLine
  rcases legible with noRows | ⟨-, isName, isCell⟩
  · rw [noRows] at isLine
    cases isLine
  split at isLine
  · cases isLine
  rcases List.mem_cons.mp isLine with rfl | isRow
  · rcases List.mem_cons.mp isWritten with rfl | inNames
    · decide
    · exact isName field inNames
  · obtain ⟨row, member, rfl⟩ := List.mem_map.mp isRow
    rcases List.mem_cons.mp isWritten with rfl | inCells
    · exact isField_toDigits (by decide) (by decide) row.index
    · obtain ⟨cell, inRow, rfl⟩ := List.mem_map.mp inCells
      cases cell with
      | none => decide
      | some text => exact isCell row member (some text) inRow text rfl

/-- Each line of the table has a field behind its label for each column. -/
theorem length_of_mem_tableFields
    (wide : ∀ row ∈ report.rows, row.cells.length = report.columns.length) {fields : List Text}
    (isLine : fields ∈ report.tableFields) : fields.length = report.columns.length + 1 := by
  rw [tableFields] at isLine
  split at isLine
  · cases isLine
  rcases List.mem_cons.mp isLine with rfl | isRow
  · rfl
  · obtain ⟨row, member, rfl⟩ := List.mem_map.mp isRow
    rw [List.length_cons, List.length_map, wide row member]

/-- The lines of the table are its fields joined with tabs, where there are columns. -/
theorem tableLines_eq (legible : report.IsLegible)
    (wide : ∀ row ∈ report.rows, row.cells.length = report.columns.length) :
    report.tableLines = report.tableFields.map fun fields => joined ['\t'] fields ++ ['\n'] := by
  rw [tableLines, tableFields]
  rcases legible with noRows | ⟨named, -, -⟩
  · rw [noRows]
    rfl
  split
  · rfl
  · rw [List.map_cons, List.map_map, line_eq named]
    congr 1
    refine List.map_congr_left fun row isRow => line_eq ?_ _
    rw [← List.length_pos_iff] at named ⊢
    rw [List.length_map, wide row isRow]
    exact named

section

variable (legible : report.IsLegible)
  (wide : ∀ row ∈ report.rows, row.cells.length = report.columns.length)
  (status : ∀ line ∈ report.statusLines, ∃ content, line = content ++ ['\n'] ∧ IsField content)

include legible wide status

/-- The text of a legible report is the lines that tell how the search ended, then the table. -/
theorem toText_eq_ofLines :
    report.toText = ofLines
      (report.statusLines.map List.dropLast ++ report.tableFields.map (joined ['\t'])) := by
  have ended : ∀ line ∈ report.statusLines ++ report.tableLines,
      ∃ content, line = content ++ ['\n'] := by
    intro line isLine
    rcases List.mem_append.mp isLine with isStatus | inTable
    · obtain ⟨content, same, -⟩ := status line isStatus
      exact ⟨content, same⟩
    · rw [tableLines_eq legible wide] at inTable
      obtain ⟨fields, -, same⟩ := List.mem_map.mp inTable
      exact ⟨_, same.symm⟩
  have table : report.tableLines.map List.dropLast = report.tableFields.map (joined ['\t']) := by
    rw [tableLines_eq legible wide, List.map_map]
    exact List.map_congr_left fun fields _ => List.dropLast_concat
  rw [toText, ← ofLines_dropLast ended, List.map_append, table]

/-- The lines of a report are its status lines, then those of its table. -/
theorem lines_toText :
    lines report.toText =
      report.statusLines.map List.dropLast ++ report.tableFields.map (joined ['\t']) := by
  rw [toText_eq_ofLines legible wide status]
  apply lines_ofLines
  intro line isLine
  rcases List.mem_append.mp isLine with isStatus | inTable
  · obtain ⟨_, member, rfl⟩ := List.mem_map.mp isStatus
    obtain ⟨content, rfl, isField⟩ := status _ member
    rw [List.dropLast_concat]
    exact isField.2
  · obtain ⟨fields, member, rfl⟩ := List.mem_map.mp inTable
    intro inside
    rcases mem_joined inside with between | ⟨field, isWritten, inField⟩
    · exact absurd between (by decide)
    · exact (legible.isField member isWritten).2 inField

/-- The table is found in the text of a legible report. -/
theorem tableIn_toText : tableIn report.toText = report.tableFields := by
  have passed : ∀ line ∈ report.statusLines.map List.dropLast, (!line.contains '\t') = true := by
    intro line isLine
    obtain ⟨_, member, rfl⟩ := List.mem_map.mp isLine
    obtain ⟨content, rfl, isField⟩ := status _ member
    rw [List.dropLast_concat, Bool.not_eq_true', ← Bool.not_eq_true, List.contains_iff_mem]
    exact isField.1
  have stopped : (report.tableFields.map (joined ['\t'])).dropWhile (fun line =>
      !line.contains '\t') = report.tableFields.map (joined ['\t']) := by
    rw [tableFields]
    rcases legible with noRows | ⟨named, -, -⟩
    · rw [noRows]
      rfl
    split
    · rfl
    · rw [List.map_cons, joined_cons named]
      exact List.dropWhile_cons_of_neg (by simp)
  rw [tableIn, lines_toText legible wide status, List.dropWhile_append_of_pos passed, stopped,
    List.map_map]
  have cut : ∀ fields ∈ report.tableFields, (joined ['\t'] fields).splitOn '\t' = fields := by
    intro fields isLine
    have nonempty : fields ≠ [] := by
      rw [← List.length_pos_iff, length_of_mem_tableFields wide isLine]
      omega
    exact List.splitOn_intercalate '\t'
      (fun field isWritten => (legible.isField isLine isWritten).1) nonempty
  exact (List.map_congr_left cut).trans (List.map_id _)

/-- The rows are read back from the text of a legible report. -/
theorem rowsIn_toText (filled : ∀ row ∈ report.rows, some [] ∉ row.cells) :
    rowsIn report.toText = report.rows := by
  rw [rowsIn, tableIn_toText legible wide status, tableFields]
  split
  next noRows =>
    exact (List.isEmpty_iff.mp noRows).symm
  next =>
    rw [List.tail_cons, List.filterMap_map]
    have shown : ∀ row ∈ report.rows,
        rowOfFields? (ofNat row.index :: row.cells.map (Option.getD · [])) = some row := by
      intro row isRow
      have counted : decimalValue (ofNat row.index) = row.index := Nat.ofDigitChars_ten_toDigits
      have kept : ∀ cell ∈ row.cells,
          (if (cell.getD []).isEmpty then none else some (cell.getD [])) = cell := by
        intro cell isCell
        cases cell with
        | none => rfl
        | some text =>
            have nonempty : text ≠ [] := fun same => filled row isRow (same ▸ isCell)
            rw [Option.getD_some, if_neg (by rwa [List.isEmpty_iff])]
      rw [rowOfFields?, counted, List.map_map]
      exact congrArg (fun cells => some (ReportRow.mk row.index cells))
        ((List.map_congr_left kept).trans (List.map_id _))
    exact (List.filterMap_congr shown).trans List.filterMap_some

end

/-- A report is legible where its table is what is read from some text. -/
theorem isLegible_of_tableIn (found : tableIn text = report.tableFields) : report.IsLegible := by
  by_cases noRows : report.rows = []
  · exact .inl noRows
  have shown : report.tableFields = (ofString "row" :: report.columns) ::
      report.rows.map fun row => ofNat row.index :: row.cells.map (Option.getD · []) := by
    rw [tableFields, if_neg (by rwa [List.isEmpty_iff])]
  rw [shown] at found
  refine .inr ⟨fun noColumns => ?_, fun name isName => ?_,
    fun row isRow cell isCell raw isRaw => ?_⟩
  · rw [noColumns] at found
    exact tableIn_ne_cons_singleton _ _ found
  · exact isField_of_mem_tableIn (found ▸ List.mem_cons_self) (List.mem_cons_of_mem _ isName)
  · refine isField_of_mem_tableIn (found ▸ List.mem_cons_of_mem _ (List.mem_map_of_mem isRow))
      (List.mem_cons_of_mem _ (List.mem_map.mpr ⟨cell, isCell, ?_⟩))
    rw [Option.mem_def.mp isRaw, Option.getD_some]

/-- **Reports are read back where they are legible.** The report of a search in a regular table
shows the selected rows, ascending, with their cells in the table, and writes as many fields in each
line of its table as there are columns, behind the word or the index that begins the line. The lines
that tell how the search ended are single lines without a tab. The names and cells are found in the
text exactly where the report is legible; then the text is line by line what the report writes, and
the rows are read back from it. -/
theorem toText_reads_back (searcher : Searcher) (query : Text) (viaDictionary : Bool)
    (regular : searcher.snapshot.descriptions.IsRegular) :
    let table := searcher.snapshot.descriptions
    let response := searcher.search query viaDictionary
    let report := ofResponse query response table
    let shown := report.statusLines.map List.dropLast ++ report.tableFields.map (joined ['\t'])
    (report.rows.map ReportRow.index = response.rows.indices ∧
        response.rows.indices.Pairwise (· < ·) ∧
        (∀ index, index ∈ response.rows.indices ↔ response.rows.contains index = true) ∧
        ∀ row ∈ report.rows, table.row? row.index = some row.cells) ∧
      (∀ fields ∈ report.tableFields, fields.length = table.width + 1) ∧
      (∀ line ∈ report.statusLines, ∃ content, line = content ++ ['\n'] ∧ IsField content) ∧
      (tableIn report.toText = report.tableFields ↔ report.IsLegible) ∧
      (report.IsLegible → report.toText = ofLines shown ∧ lines report.toText = shown ∧
        rowsIn report.toText = report.rows) := by
  intro table response report shown
  have sized : response.rows.height = table.height :=
    (Searcher.search_arises searcher query viaDictionary).consistent.rows_height
  have wide : ∀ row ∈ report.rows, row.cells.length = report.columns.length :=
    fun row isRow => length_cells regular isRow
  have filled : ∀ row ∈ report.rows, some [] ∉ row.cells :=
    fun row isRow => some_nil_not_mem_cells regular isRow
  have status : ∀ line ∈ report.statusLines, ∃ content, line = content ++ ['\n'] ∧
      IsField content := fun line => exists_of_mem_statusLines
  refine ⟨⟨map_index_rows sized, Selection.pairwise_indices, fun index => Selection.mem_indices_iff,
    fun row => row?_of_mem_rows⟩, fun fields => length_of_mem_tableFields wide, status,
    ⟨isLegible_of_tableIn, fun legible => tableIn_toText legible wide status⟩, fun legible => ?_⟩
  exact ⟨toText_eq_ofLines legible wide status, lines_toText legible wide status,
    rowsIn_toText legible wide status filled⟩

/-- A cell that holds a line feed and a tab is shown as two rows are: the report of a table of two
rows is read back, and the report of a table of one row has the same text. -/
theorem toText_reads_back_sample :
    let broken := Table.ofTexts [ofString "name"] [[some (ofString "bolt\n1\tnut")]]
    let whole := Table.ofTexts [ofString "name"] [[some (ofString "bolt")], [some (ofString "nut")]]
    let searcher (table : Table) : Searcher :=
      ⟨⟨.empty, table, .empty⟩, ⟨.textual, .textual⟩⟩
    let report (table : Table) := ofResponse [] ((searcher table).search [] false) table
    (whole.IsRegular ∧ (report whole).IsLegible ∧
        rowsIn (report whole).toText = (report whole).rows) ∧
      broken.IsRegular ∧ ¬(report broken).IsLegible ∧
      tableIn (report broken).toText ≠ (report broken).tableFields ∧
      (report broken).toText = (report whole).toText ∧
      (report broken).rows ≠ (report whole).rows := by
  intro broken whole searcher report
  have wholeRegular : whole.IsRegular := Table.isRegular_ofTexts _ _
  have brokenRegular : broken.IsRegular := Table.isRegular_ofTexts _ _
  have legible : (report whole).IsLegible := by decide +kernel
  have illegible : ¬(report broken).IsLegible := by decide +kernel
  obtain ⟨-, -, -, -, readsBack⟩ := toText_reads_back (searcher whole) [] false wholeRegular
  obtain ⟨-, -, -, found_iff, -⟩ := toText_reads_back (searcher broken) [] false brokenRegular
  refine ⟨⟨wholeRegular, legible, (readsBack legible).2.2⟩, brokenRegular, illegible,
    fun found => illegible (found_iff.mp found), ?_, ?_⟩
  · decide +kernel
  · decide +kernel

end Report

end TableSearch
