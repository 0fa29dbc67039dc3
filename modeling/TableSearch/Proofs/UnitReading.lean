import TableSearch.Proofs.Term.Numeric

/-!
# A number and its unit in a query and in a cell

A query takes any text without white space for a unit that does not begin with a digit, with a
hyphen or with a sign of comparison, and a number in it may end with a dot. In a cell a unit is a
letter and the letters, digits and slashes behind it, and a dot belongs to a number only where a
digit follows. Main statement: which cells are found by a comparison with their own text.
-/

namespace TableSearch

open Text Quantity

variable {numeral groups unit folded : Text}

/-! ## The query -/

namespace Term

/-- A number and a unit that a space parts are read as they are written. -/
theorem eq_of_longestNumeral {found spelling : Text} (isNumber : IsNumberText numeral)
    (visible : ∀ character ∈ unit, isBlank character = false)
    (read : longestNumeral unitTail (numeral ++ ' ' :: unit) = some (found, some spelling)) :
    found = numeral ∧ spelling = unit := by
  obtain ⟨isFound, rest, split, accepted⟩ := exists_of_longestNumeral read
  obtain ⟨blanks, white, rfl, nonempty, shown⟩ := exists_of_unitTail accepted
  have foundVisible := isFound.isBlank_eq_false
  cases blanks with
  | nil =>
      have space : ' ' ∈ found ++ ([] ++ spelling) := split ▸ by simp
      rw [List.nil_append, List.mem_append] at space
      rcases space with inFound | inSpelling
      · exact absurd (foundVisible _ inFound) (by decide)
      · exact absurd (shown _ inSpelling) (by decide)
  | cons blank more =>
      rw [isBlankText, List.all_cons, Bool.and_eq_true] at white
      obtain ⟨same, behind⟩ := eq_of_append_blank isNumber.isBlank_eq_false
        foundVisible isBlank_space white.1 split
      cases more with
      | nil => exact ⟨same.symm, behind.symm⟩
      | cons second others =>
          have isWhite := List.all_eq_true.mp white.2 second List.mem_cons_self
          rw [visible second (behind ▸ List.mem_cons_self)] at isWhite
          cases isWhite

/-- A comparison with a number and a unit behind a space is trimmed of nothing. -/
theorem trimmed_atLeast (visible : ∀ character ∈ unit, isBlank character = false)
    (hasUnit : unit ≠ []) : trimmed (ofString ">=" ++ numeral ++ [' '] ++ unit) =
      ofString ">=" ++ (numeral ++ ' ' :: unit) := by
  have isTrimmed : IsTrimmed (ofString ">=" ++ ((numeral ++ [' ']) ++ unit)) :=
    isTrimmed_append (by decide) hasUnit (isBlank_eq_false_of_any (by decide)) visible _
  simpa only [List.append_assoc, List.singleton_append] using trimmed_of_isTrimmed isTrimmed

/-- Without a unit, the space behind the number is trimmed off. -/
theorem trimmed_atLeast_blank (isNumber : IsNumberText numeral) :
    trimmed (ofString ">=" ++ numeral ++ [' '] ++ []) = ofString ">=" ++ (numeral ++ []) := by
  rw [List.append_nil, List.append_nil, trimmed_append_of_blank isBlank_space]
  exact trimmed_of_isTrimmed (isTrimmed_append (by decide) isNumber.ne_nil
    (isBlank_eq_false_of_any (by decide)) isNumber.isBlank_eq_false [])

/-- What is read behind the sign begins with the number. -/
theorem eq_of_comparisonSign {tail operand : Text} {comparison : Comparison}
    (isNumber : IsNumberText numeral)
    (sign : comparisonSign (ofString ">=" ++ (numeral ++ tail)) = some (comparison, operand)) :
    comparison = .atLeast ∧ operand.dropWhile isBlank = numeral ++ tail := by
  have isSign : comparisonSign (ofString ">=" ++ (numeral ++ tail)) =
      some (.atLeast, numeral ++ tail) := rfl
  rw [isSign] at sign
  cases sign
  exact ⟨rfl, dropWhile_number isNumber (show isBlankText [] = true from rfl) tail⟩

/-- A comparison with a number and a known unit behind a space has the value of the number for its
bound, and asks for the unit that the table knows under the text of the unit. -/
theorem classify_atLeast {units : UnitTable} {term : Term} {comparison : Comparison} {bound : Float}
    {unitId : UnitId} (isNumber : IsNumberText numeral)
    (visible : ∀ character ∈ unit, isBlank character = false)
    (isTerm : classify units (ofString ">=" ++ numeral ++ [' '] ++ unit) = some term)
    (compares : term.test = .compare comparison bound) (asks : term.unit = some unitId) :
    comparison = .atLeast ∧ term.negated = false ∧ Numeral.valueOf? numeral = some bound ∧
      units.resolve unit = some unitId := by
  obtain ⟨positive, asked, isComparison, source⟩ := exists_of_classify isTerm compares
  obtain ⟨spelling, rfl, resolved⟩ := Option.bind_eq_some_iff.mp (source.symm.trans asks)
  obtain ⟨_, operand, found, _, same, sign, read, value⟩ := exists_of_comparison? isComparison
  cases same
  by_cases noUnit : unit = []
  · -- What is left of the space names no unit.
    subst noUnit
    have missing : IsUnitText [] := ⟨by simp, by simp⟩
    have whole : longestNumeral unitTail (numeral ++ []) = some (numeral, none) :=
      longestNumeral_unitTail isNumber missing (show isBlankText [] = true from rfl)
    rw [trimmed_atLeast_blank isNumber] at sign
    rw [(eq_of_comparisonSign isNumber sign).2, whole] at read
    cases read
  · rw [trimmed_atLeast visible noUnit] at sign
    obtain ⟨rfl, behind⟩ := eq_of_comparisonSign isNumber sign
    rw [behind] at read
    obtain ⟨rfl, rfl⟩ := eq_of_longestNumeral isNumber visible read
    exact ⟨rfl, positive, value, resolved⟩

end Term

/-! ## The cell -/

namespace Quantity

/-- A cell that holds a number and a unit with a space between them, as it is searched. -/
theorem fold_number_unit (isNumber : Term.IsNumberText numeral) (unit : Text) :
    fold (numeral ++ [' '] ++ unit) = numeral ++ ' ' :: fold unit := by
  have space : fold [' '] = [' '] :=
    fold_of_forall (List.forall_mem_singleton.mpr (foldChar_of_mem (by decide)))
  rw [fold_append, fold_append, isNumber.isNumeric.fold_eq, space, List.append_assoc]
  rfl

/-- Behind digit groups and a space, a unit is what a unit can be of the text there. -/
theorem all_number_unit (isGroups : IsGroups groups)
    (visible : ∀ character ∈ folded, isBlank character = false) :
    all (groups ++ ' ' :: folded) = ⟨groups, (spanUnit folded).1⟩ :: all (spanUnit folded).2 := by
  have start : folded.dropWhile isBlank = folded :=
    dropWhile_eq_self fun first isFirst => visible first (List.mem_of_mem_head? isFirst)
  have stops : goesOn (' ' :: folded) = false := rfl
  rw [all_of_isGroups isGroups stops, List.dropWhile_cons, isBlank_space, if_pos rfl, start]

/-- Behind digit groups and a dot no unit is read. -/
theorem all_dotted_unit (isGroups : IsGroups groups) (folded : Text) :
    all (groups ++ ['.'] ++ ' ' :: folded) = ⟨groups, none⟩ :: all folded := by
  have digitless : Digitless ['.', ' '] := digits_eq_nil_iff.mp (by decide)
  have skipped : all ('.' :: ' ' :: folded) = all folded := all_append_of_digitless digitless folded
  have noUnit : isUnitStart '.' = false := by decide +kernel
  have stops : goesOn ('.' :: ' ' :: folded) = false := rfl
  rw [List.append_assoc, List.singleton_append, all_of_isGroups isGroups stops,
    List.dropWhile_cons, if_neg (by decide), spanUnit, noUnit, if_neg Bool.false_ne_true, skipped]

/-- A text that is a unit as a cell spells units. -/
def IsCellUnit (text : Text) : Prop :=
  ∃ head rest, text = head :: rest ∧ isUnitStart head = true ∧
    ∀ character ∈ rest, isUnitPart character = true

/-- A unit in a cell is read to its end. -/
theorem IsCellUnit.spanUnit_eq (isUnit : IsCellUnit folded) :
    spanUnit folded = (some folded, []) := by
  obtain ⟨head, rest, rfl, starts, goesOn⟩ := isUnit
  have stops : ∀ next ∈ ([] : Text).head?, isUnitPart next = false := by simp
  have taken := takeWhile_append_of_stops goesOn stops
  have dropped := dropWhile_append_of_stops goesOn stops
  rw [List.append_nil] at taken dropped
  rw [spanUnit, if_pos starts, taken, dropped]

end Quantity

namespace Target

variable {target : Target} {index : Nat} {term : Term}

/-- The cells of a row that are looked at hold one text. -/
def HoldsOnly (target : Target) (index : Nat) (text : Text) : Prop :=
  ∀ cell, (∃ column ∈ target.columns, target.table.cell? index column = some cell) ↔
    cell = .ofText text

/-- A row holds only a text where that is its cell in the one column looked at. -/
theorem holdsOnly_of_cell? (column : Nat) {text : Text} (columns : target.columns = [column])
    (isCell : target.table.cell? index column = some (.ofText text)) :
    target.HoldsOnly index text := by
  intro cell
  rw [columns]
  simp only [List.mem_singleton, exists_eq_left, isCell, Option.some.injEq]
  exact eq_comm

/-- Where a row holds only a text, a cell passes where the cell of that text does. -/
theorem HoldsOnly.someCell_iff {text : Text} (only : target.HoldsOnly index text)
    {passes : Cell → Prop} : target.SomeCell index passes ↔ passes (.ofText text) := by
  constructor
  · rintro ⟨column, looked, cell, isCell, passed⟩
    rwa [(only cell).mp ⟨column, looked, isCell⟩] at passed
  · intro passed
    obtain ⟨column, looked, isCell⟩ := (only _).mpr rfl
    exact ⟨column, looked, _, isCell, passed⟩

/-- A row with one text is selected where the term accepts a quantity of the text. -/
theorem contains_termRows_of_holdsOnly {text : Text} (only : target.HoldsOnly index text)
    (numeric : term.isNumeric = true) (positive : term.negated = false) :
    (target.termRows term).contains index = true ↔
      ∃ quantity ∈ Quantity.all (fold text), target.quantityMatches term quantity = true := by
  have inside : index < target.table.height := by
    have someCell : target.SomeCell index fun _ => True := only.someCell_iff.mpr trivial
    obtain ⟨row, isRow⟩ := someCell.exists_row
    exact (List.getElem?_eq_some_iff.mp isRow).1
  rw [contains_termRows_iff numeric, only.someCell_iff, positive]
  simp only [inside, true_and, iff_true]
  rfl

/-- The bound of a comparison is accepted by it where equality is. -/
theorem quantityMatches_atLeast {bound : Float} (compares : term.test = .compare .atLeast bound)
    (value : Numeral.valueOf? numeral = some bound) (written : Option Text) :
    target.quantityMatches term ⟨numeral, written⟩ = target.unitMatches term written := by
  have accepted : term.accepts bound = true := by
    rw [Term.accepts, compares]
    exact decide_eq_true (Numeral.le_self_of_valueOf? value)
  rw [quantityMatches]
  dsimp only
  rw [value]
  dsimp only
  rw [accepted, Bool.true_and]

/-- A term that asks for a unit accepts no number alone. -/
theorem unitMatches_none {required : UnitId} (asks : term.unit = some required) :
    target.unitMatches term .none = false := by
  unfold unitMatches
  rw [asks]

/-- A known spelling is accepted by a term where it is one of the unit that the term asks for. -/
theorem unitMatches_of_resolve {spelling : Text} {required known : UnitId}
    (asks : term.unit = some required) (resolved : target.units.resolve spelling = some known) :
    target.unitMatches term (some spelling) = true ↔ known = required := by
  unfold unitMatches
  rw [asks]
  dsimp only
  rw [resolved]
  exact decide_eq_true_iff

/-- An unknown spelling is accepted by a term where it is the name of the unit that the term asks
for. -/
theorem unitMatches_of_unknown {spelling : Text} {required : UnitId}
    (asks : term.unit = some required) (unknown : target.units.resolve spelling = .none) :
    target.unitMatches term (some spelling) = true ↔ Text.normalize spelling = required.name := by
  unfold unitMatches
  rw [asks]
  dsimp only
  rw [unknown]
  exact decide_eq_true_iff

/-- A number without a unit passes no term that asks for one. -/
theorem quantityMatches_of_unit_none {unitId : UnitId} (asks : term.unit = some unitId)
    (numeral : Text) : target.quantityMatches term ⟨numeral, .none⟩ = false := by
  rw [← Bool.not_eq_true, quantityMatches_iff, unitMatches_none asks]
  exact fun ⟨_, passes⟩ => Bool.false_ne_true passes

/-- A unit of a cell that is the folded text of a known unit is the unit asked for. -/
theorem unitMatches_of_isCellUnit {unitId : UnitId} (isUnit : IsCellUnit (fold unit))
    (resolved : target.units.resolve unit = some unitId) (asks : term.unit = some unitId) :
    target.unitMatches term (Quantity.spanUnit (fold unit)).1 = true := by
  have sameUnit : target.units.resolve (fold unit) = some unitId := by
    rw [← resolved, UnitTable.resolve, UnitTable.resolve, Text.normalize, Text.normalize,
      foldedWords, foldedWords, fold_fold]
  rw [isUnit.spanUnit_eq]
  exact (unitMatches_of_resolve asks sameUnit).mpr rfl

/-- **A comparison with the text of a cell.** A row is looked at in one text, a number, a space and
a unit, and a term asks for at least this number with this unit. The row is selected where the
number ends with a digit and the longest part of the folded unit that can be a unit in a cell, from
its start on, names the unit that the term asks for. It does if the folded unit is a unit of a cell
as a whole. Where the unit holds no digit, no other row of this kind is selected. -/
theorem termRows_of_number_and_unit (target : Target) {index : Nat} {term : Term}
    {comparison : Comparison} {bound : Float} {unitId : UnitId}
    (isNumber : Term.IsNumberText numeral) (visible : ∀ character ∈ unit, isBlank character = false)
    (isTerm : Term.classify target.units (ofString ">=" ++ numeral ++ [' '] ++ unit) = some term)
    (compares : term.test = .compare comparison bound) (asks : term.unit = some unitId)
    (only : target.HoldsOnly index (numeral ++ [' '] ++ unit)) :
    let selected := (target.termRows term).contains index = true
    let written := (Quantity.spanUnit (fold unit)).1
    (numeral.getLast? ≠ some '.' → target.unitMatches term written = true → selected) ∧
      (IsCellUnit (fold unit) → target.unitMatches term written = true) ∧
      (Digitless unit → selected →
        numeral.getLast? ≠ some '.' ∧ target.unitMatches term written = true) := by
  intro selected written
  obtain ⟨rfl, positive, value, resolved⟩ :=
    Term.classify_atLeast isNumber visible isTerm compares asks
  have numeric : term.isNumeric = true := by
    rw [Term.isNumeric, compares]
  have foldedVisible := isBlank_of_mem_fold visible
  have isSelected : selected ↔ ∃ quantity ∈ Quantity.all (numeral ++ ' ' :: fold unit),
      target.quantityMatches term quantity = true := by
    rw [← Quantity.fold_number_unit isNumber]
    exact contains_termRows_of_holdsOnly only numeric positive
  refine ⟨fun noDot admitted => ?_,
    fun isUnit => unitMatches_of_isCellUnit isUnit resolved asks, fun digitless isTrue => ?_⟩
  · obtain ⟨groups, isGroups, rfl | rfl⟩ := isNumber
    · refine isSelected.mpr ⟨⟨numeral, written⟩, ?_, ?_⟩
      · rw [Quantity.all_number_unit isGroups foldedVisible]
        exact List.mem_cons_self
      · rw [quantityMatches_atLeast compares value, admitted]
    · exact absurd List.getLast?_concat noDot
  · obtain ⟨quantity, inCell, passes⟩ := isSelected.mp isTrue
    have noDigit : Digitless (fold unit) := isDigit_of_mem_fold digitless
    obtain ⟨groups, isGroups, rfl | rfl⟩ := isNumber
    · have behind : Quantity.all (Quantity.spanUnit (fold unit)).2 = [] :=
        all_of_digitless fun character member => noDigit character (by
          rw [← spanUnit_append (fold unit)]
          exact List.mem_append_right _ member)
      rw [Quantity.all_number_unit isGroups foldedVisible, behind, List.mem_singleton] at inCell
      rw [inCell, quantityMatches_atLeast compares value] at passes
      exact ⟨isGroups.getLast?_ne, passes⟩
    · rw [Quantity.all_dotted_unit isGroups, all_of_digitless noDigit, List.mem_singleton] at inCell
      rw [inCell, quantityMatches_of_unit_none asks] at passes
      cases passes

/-- Ten meters are found by the text of the cell, in the table that knows the meter. -/
theorem termRows_of_number_and_unit_sample :
    let target : Target := ⟨Table.ofTexts [ofString "stock"] [[some (ofString "10 m")]], [0],
      .ofEntries [.ofStrings "METROS" ["M"]]⟩
    let term : Term := ⟨ofString ">=10 m", .compare .atLeast 10, some ⟨ofString "METROS"⟩, false⟩
    Term.classify target.units (ofString ">=10 m") = some term ∧
      target.HoldsOnly 0 (ofString "10 m") ∧ IsCellUnit (fold (ofString "m")) ∧
        (target.termRows term).contains 0 = true := by
  intro target term
  have isTerm : Term.classify target.units
      (ofString ">=" ++ ofString "10" ++ [' '] ++ ofString "m") = some term := by decide +kernel
  have only : target.HoldsOnly 0 (ofString "10" ++ [' '] ++ ofString "m") :=
    holdsOnly_of_cell? 0 rfl (by decide +kernel)
  have isUnit : IsCellUnit (fold (ofString "m")) :=
    ⟨'M', [], by decide +kernel, by decide +kernel, by simp⟩
  obtain ⟨found, whole, -⟩ := termRows_of_number_and_unit target
    ⟨ofString "10", .digit (by decide) (.one (by decide)), .inl rfl⟩
    (isBlank_eq_false_of_any (by decide)) isTerm rfl rfl only
  exact ⟨isTerm, only, isUnit, found (by decide) (whole isUnit)⟩

/-- A degree sign begins no unit in a cell, and behind a dot none is read: two cells are missed by
the comparisons with their own texts, though both name a known unit. -/
theorem termRows_missing_own_text :
    let target : Target :=
      ⟨Table.ofTexts [ofString "stock"] [[some (ofString "10 °C")], [some (ofString "10. m")]], [0],
        .ofEntries [.ofStrings "CELSIUS" ["°C"], .ofStrings "METROS" ["M"]]⟩
    let first : Term := ⟨ofString ">=10 °C", .compare .atLeast 10, some ⟨ofString "CELSIUS"⟩, false⟩
    let second : Term := ⟨ofString ">=10. m", .compare .atLeast 10, some ⟨ofString "METROS"⟩, false⟩
    (Term.classify target.units (ofString ">=10 °C") = some first ∧
        target.HoldsOnly 0 (ofString "10 °C") ∧ (target.termRows first).contains 0 = false) ∧
      (Term.classify target.units (ofString ">=10. m") = some second ∧
        target.HoldsOnly 1 (ofString "10. m") ∧ (target.termRows second).contains 1 = false) := by
  refine ⟨⟨by decide +kernel, holdsOnly_of_cell? 0 rfl ?_, by decide +kernel⟩,
    by decide +kernel, holdsOnly_of_cell? 0 rfl ?_, by decide +kernel⟩
  · decide +kernel
  · decide +kernel

end Target

end TableSearch
