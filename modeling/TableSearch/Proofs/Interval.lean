import TableSearch.Proofs.Term.Numeric

/-!
# Ranges and the comparisons with their bounds

A range accepts the numbers that are at least its lower bound and at most its upper bound, whichever
of the two is written first. In a cell one number may meet the lower bound and another the upper, so
the rows of a range are among those of the two comparisons. Main statement: they are the same rows
where one column is looked at and no cell of it holds two numbers, and a unit only narrows them.
-/

namespace TableSearch

open Text

namespace Term

variable {stem numeral low high unit behind : Text} {test : Test} {bound least greatest : Float}

/-- A text is read as a test of numbers, with whatever unit stands behind it. -/
structure ReadsAs (stem : Text) (test : Test) : Prop where
  nonempty : stem ≠ []
  isTrimmed : IsTrimmed stem
  noQuote : stem.head? ≠ some '"'
  numeric : ∀ word, test ≠ .word word
  reading : ∀ {unit blanks : Text}, IsUnitText unit → isBlankText blanks = true →
    (comparison? (stem ++ (blanks ++ unit))).or (range? (stem ++ (blanks ++ unit))) =
      some (test, if unit = [] then none else some unit)

/-- The unit that a token asks for, by the text of the unit in it. -/
def unitAsked (units : UnitTable) (unit : Text) : Option UnitId :=
  if unit = [] then none else units.resolve unit

/-- A token that is read as a test of numbers stands for that test, with the unit behind it. -/
theorem ReadsAs.classify_eq (reads : ReadsAs stem test) (units : UnitTable)
    (isUnit : IsUnitText unit) (white : isBlankText behind = true) :
    classify units (stem ++ behind ++ unit) =
      some ⟨stem ++ behind ++ unit, test, unitAsked units unit, false⟩ := by
  have noBlanks : isBlankText [] = true := rfl
  have read := classify_of_reading units stem test reads.nonempty reads.isTrimmed reads.noQuote
    isUnit noBlanks white noBlanks fun _ => reads.reading isUnit
  rwa [List.nil_append, List.append_nil, ← List.append_assoc] at read

/-- A sign of comparison and a number are read as the comparison. -/
theorem readsAs_compare (comparison : Comparison) (isNumber : IsNumberText numeral)
    (value : Numeral.valueOf? numeral = some bound) :
    ReadsAs (ofString comparison.symbol ++ numeral) (.compare comparison bound) := by
  have sign : ofString comparison.symbol ≠ [] ∧ (ofString comparison.symbol).head? ≠ some '"' ∧
      (ofString comparison.symbol).any isBlank = false := by
    cases comparison <;> decide
  obtain ⟨hasSign, noQuote, visible⟩ := sign
  exact {
    nonempty := List.append_ne_nil_of_left_ne_nil hasSign numeral
    isTrimmed := isTrimmed_append hasSign isNumber.ne_nil (isBlank_eq_false_of_any visible)
      isNumber.isBlank_eq_false []
    noQuote := by rwa [List.head?_append_of_ne_nil _ hasSign]
    numeric := fun _ isWord => Test.noConfusion isWord
    reading := fun {unit blanks} isUnit white => by
      have read := comparison?_of_isNumberText comparison isNumber value isUnit
        (show isBlankText [] = true from rfl) white
      rw [List.nil_append] at read
      rw [List.append_assoc, read]
      rfl }

/-- Two numbers around a hyphen are read as the range between them. -/
theorem readsAs_range (isLow : IsNumberText low) (lowValue : Numeral.valueOf? low = some least)
    (isHigh : IsNumberText high) (highValue : Numeral.valueOf? high = some greatest) :
    ReadsAs (low ++ '-' :: high) (.range (min least greatest) (max least greatest)) where
  nonempty := List.append_ne_nil_of_left_ne_nil isLow.ne_nil _
  isTrimmed := isTrimmed_append isLow.ne_nil isHigh.ne_nil isLow.isBlank_eq_false
    isHigh.isBlank_eq_false ['-']
  noQuote := isLow.head?_ne (by decide) _
  numeric := fun _ isWord => Test.noConfusion isWord
  reading := fun {unit blanks} isUnit white => by
    have noBlanks : isBlankText [] = true := rfl
    have read := range?_of_isNumberText isLow lowValue isHigh highValue isUnit noBlanks noBlanks
      white
    rw [List.nil_append, List.nil_append] at read
    rw [List.append_assoc, List.cons_append, comparison?_eq_none (isLow.head?_ne (by decide) _)
      (isLow.head?_ne (by decide) _) (isLow.head?_ne (by decide) _), Option.none_or, read]

end Term

namespace Target

variable {target : Target} {stem unit behind : Text} {test : Test} {least greatest : Float}
  {row : List (Option Cell)}

/-- The rows where the term of a token holds, if the token asks for anything. -/
def tokenRows (target : Target) (token : Text) : Option Selection :=
  (Term.classify target.units token).map target.termRows

/-- The quantities in those cells of a row that are looked at. -/
def quantities (target : Target) (row : List (Option Cell)) : List Quantity :=
  (target.cells row).flatMap fun cell => Quantity.all cell.folded

/-- Whether a quantity passes a test and has the unit, if one is asked for. -/
def passes (target : Target) (test : Test) (unit : Option UnitId) (quantity : Quantity) : Bool :=
  target.quantityMatches ⟨[], test, unit, false⟩ quantity

/-- The rows with a quantity that passes a test and has the unit, if one is asked for. -/
def quantityRows (target : Target) (test : Test) (unit : Option UnitId) : Selection :=
  target.rowsWhere fun row => (target.quantities row).any (target.passes test unit)

/-- One column at most is looked at, and no cell of it holds two quantities. -/
def HoldsSingles (target : Target) : Prop :=
  ∃ column, (∀ looked ∈ target.columns, looked = column) ∧
    ∀ index cell, target.table.cell? index column = some cell →
      (Quantity.all cell.folded).length ≤ 1

/-! ## The rows of a token -/

/-- A term that tests numbers selects the rows with a quantity that passes. -/
theorem termRows_of_numeric (numeric : ∀ word, test ≠ .word word) (spelling : Text)
    (unit : Option UnitId) :
    target.termRows ⟨spelling, test, unit, false⟩ = target.quantityRows test unit := by
  have read : target.termRows ⟨spelling, test, unit, false⟩ =
      target.rowsWhere (target.rowHasQuantity ⟨spelling, test, unit, false⟩) := by
    cases test with
    | word word => exact absurd rfl (numeric word)
    | compare | range => rfl
  rw [read, quantityRows]
  refine Selection.ofTest_congr fun row _ => ?_
  rw [rowHasQuantity, quantities, List.any_flatMap]
  rfl

/-- A token with a unit selects the rows with a quantity of that unit that passes its test. -/
theorem tokenRows_of_readsAs (target : Target) (reads : Term.ReadsAs stem test)
    (isUnit : Term.IsUnitText unit) (white : isBlankText behind = true) :
    target.tokenRows (stem ++ behind ++ unit) =
      some (target.quantityRows test (Term.unitAsked target.units unit)) := by
  rw [tokenRows, reads.classify_eq target.units isUnit white, Option.map_some,
    termRows_of_numeric reads.numeric]

/-- As `tokenRows_of_readsAs`, for a token without a unit. -/
theorem tokenRows_of_unitless (reads : Term.ReadsAs stem test) :
    target.tokenRows stem = some (target.quantityRows test .none) := by
  have noUnit : Term.IsUnitText [] := ⟨by simp, by simp⟩
  have noBlanks : isBlankText [] = true := rfl
  have read := tokenRows_of_readsAs target reads noUnit noBlanks
  rwa [List.append_nil, List.append_nil] at read

/-! ## One quantity -/

/-- A quantity passes a range where it passes both comparisons. -/
theorem passes_range (unit : Option UnitId) (quantity : Quantity) :
    target.passes (.range least greatest) unit quantity =
      (target.passes (.compare .atLeast least) unit quantity &&
        target.passes (.compare .atMost greatest) unit quantity) := by
  unfold passes quantityMatches
  cases Numeral.valueOf? quantity.numeral with
  | none => rfl
  | some value =>
      have split (lower upper unit : Bool) :
          (lower && upper && unit) = (lower && unit && (upper && unit)) := by
        cases unit <;> simp
      exact split _ _ _

/-- The bounds of a range may be written in either order. -/
theorem passes_range_swap (ordered : least ≤ greatest) (unit : Option UnitId)
    (quantity : Quantity) :
    target.passes (.range (min greatest least) (max greatest least)) unit quantity =
      target.passes (.range least greatest) unit quantity := by
  have lower : min greatest least = if greatest ≤ least then greatest else least := rfl
  have upper : max greatest least = if greatest ≤ least then least else greatest := rfl
  rw [lower, upper]
  by_cases equal : greatest ≤ least
  · -- Equal bounds need not be the same float, but each of them is below the other.
    rw [if_pos equal, if_pos equal]
    have same (value : Float) : Term.accepts ⟨[], .range greatest least, unit, false⟩ value =
        Term.accepts ⟨[], .range least greatest, unit, false⟩ value := by
      have accepts (low high : Float) :
          Term.accepts ⟨[], .range low high, unit, false⟩ value = true ↔
            low ≤ value ∧ value ≤ high := by
        rw [Term.accepts, Bool.and_eq_true, decide_eq_true_iff, decide_eq_true_iff]
      rw [Bool.eq_iff_iff, accepts, accepts]
      exact and_congr ⟨FloatOrder.le_of_le_of_le ordered, FloatOrder.le_of_le_of_le equal⟩
        ⟨(FloatOrder.le_of_le_of_le · ordered), (FloatOrder.le_of_le_of_le · equal)⟩
    unfold passes quantityMatches
    cases Numeral.valueOf? quantity.numeral with
    | none => rfl
    | some value => exact congrArg (· && _) (same value)
  · rw [if_neg equal, if_neg equal]

/-- What has the unit asked for passes where none is asked for. -/
theorem passes_of_unit {unit : Option UnitId} {quantity : Quantity}
    (passes : target.passes test unit quantity = true) :
    target.passes test .none quantity = true :=
  (quantityMatches_of_unitless rfl quantity).mpr ((quantityMatches_iff quantity).mp passes).1

/-! ## The quantities of a row -/

section Quantities

variable {items : List Quantity} {first second : Quantity → Bool}

private theorem any_of_any_and (found : items.any (fun item => first item && second item) = true) :
    (items.any first && items.any second) = true := by
  obtain ⟨item, member, both⟩ := List.any_eq_true.mp found
  rw [Bool.and_eq_true] at both ⊢
  exact ⟨List.any_eq_true.mpr ⟨item, member, both.1⟩, List.any_eq_true.mpr ⟨item, member, both.2⟩⟩

private theorem any_and_of_same (same : ∀ one ∈ items, ∀ other ∈ items, one = other) :
    items.any (fun item => first item && second item) = (items.any first && items.any second) := by
  rw [Bool.eq_iff_iff]
  refine ⟨any_of_any_and, fun both => ?_⟩
  rw [Bool.and_eq_true] at both
  obtain ⟨one, oneMember, passesFirst⟩ := List.any_eq_true.mp both.1
  obtain ⟨other, otherMember, passesSecond⟩ := List.any_eq_true.mp both.2
  obtain rfl := same one oneMember other otherMember
  exact List.any_eq_true.mpr ⟨one, oneMember, Bool.and_eq_true_iff.mpr ⟨passesFirst, passesSecond⟩⟩

end Quantities

private theorem HoldsSingles.same (singles : target.HoldsSingles)
    (isRow : row ∈ target.table.rows) :
    ∀ one ∈ target.quantities row, ∀ other ∈ target.quantities row, one = other := by
  obtain ⟨column, only, single⟩ := singles
  obtain ⟨index, isRow⟩ := List.mem_iff_getElem?.mp isRow
  intro one oneMember other otherMember
  have atColumn {quantity : Quantity} (member : quantity ∈ target.quantities row) :
      ∃ cell, target.table.cell? index column = some cell ∧
        quantity ∈ Quantity.all cell.folded := by
    obtain ⟨cell, isCell, member⟩ := List.mem_flatMap.mp member
    obtain ⟨looked, inColumns, isCell⟩ := (mem_cells_iff isRow).mp isCell
    exact ⟨cell, only looked inColumns ▸ isCell, member⟩
  obtain ⟨cell, isCell, oneMember⟩ := atColumn oneMember
  obtain ⟨_, isCellToo, otherMember⟩ := atColumn otherMember
  obtain rfl := Option.some.inj (isCell.symm.trans isCellToo)
  have few := single index cell isCell
  cases read : Quantity.all cell.folded with
  | nil => rw [read] at oneMember; cases oneMember
  | cons first rest =>
      rw [read, List.length_cons] at few
      obtain rfl : rest = [] := List.length_eq_zero_iff.mp (by omega)
      rw [read, List.mem_singleton] at oneMember otherMember
      rw [oneMember, otherMember]

/-! ## The rows of ranges and comparisons -/

/-- A unit that is asked for only narrows the rows. -/
theorem quantityRows_isWithin_unitless (test : Test) (unit : Option UnitId) :
    (target.quantityRows test unit).IsWithin (target.quantityRows test .none) :=
  Selection.ofTest_isWithin fun row _ found => by
    obtain ⟨quantity, member, passes⟩ := List.any_eq_true.mp found
    exact List.any_eq_true.mpr ⟨quantity, member, passes_of_unit passes⟩

/-- The bounds of a range can be written in either order. -/
theorem quantityRows_range_swap (ordered : least ≤ greatest) (unit : Option UnitId) :
    target.quantityRows (.range (min greatest least) (max greatest least)) unit =
      target.quantityRows (.range least greatest) unit := by
  rw [quantityRows, funext (passes_range_swap ordered unit)]
  rfl

/-- The rows of the two comparisons, as the rows that pass a test. -/
theorem quantityRows_and (first second : Test) (unit : Option UnitId) :
    (target.quantityRows first unit).and (target.quantityRows second unit) =
      target.rowsWhere fun row => (target.quantities row).any (target.passes first unit) &&
        (target.quantities row).any (target.passes second unit) :=
  Selection.and_ofTest

/-- The rows of a range are among those of both comparisons with its bounds. -/
theorem quantityRows_range_isWithin (unit : Option UnitId) :
    (target.quantityRows (.range least greatest) unit).IsWithin
      ((target.quantityRows (.compare .atLeast least) unit).and
        (target.quantityRows (.compare .atMost greatest) unit)) := by
  rw [quantityRows_and, quantityRows, funext (passes_range unit)]
  exact Selection.ofTest_isWithin fun row _ => any_of_any_and

/-- Where no row has two numbers, the rows of a range are those of both comparisons with its bounds.
-/
theorem quantityRows_range_of_holdsSingles (singles : target.HoldsSingles)
    (unit : Option UnitId) :
    target.quantityRows (.range least greatest) unit =
      (target.quantityRows (.compare .atLeast least) unit).and
        (target.quantityRows (.compare .atMost greatest) unit) := by
  rw [quantityRows_and, quantityRows, funext (passes_range unit)]
  exact Selection.ofTest_congr fun row isRow => any_and_of_same (singles.same isRow)

/-- **A range is two comparisons at once.** A token with two numbers around a hyphen and perhaps a
unit selects the same rows whichever number is written first. They are among the rows that both
comparisons with the bounds select, and they are these rows where one column at most is looked at
and no cell of it holds two quantities. Without the unit, each of these tokens selects the same rows
or more. -/
theorem tokenRows_range (target : Target) {low high unit behind : Text} {least greatest : Float}
    (isLow : Term.IsNumberText low) (isHigh : Term.IsNumberText high)
    (lowValue : Numeral.valueOf? low = some least)
    (highValue : Numeral.valueOf? high = some greatest) (ordered : least ≤ greatest)
    (isUnit : Term.IsUnitText unit) (white : isBlankText behind = true) :
    let ranged := low ++ '-' :: high
    let swapped := high ++ '-' :: low
    let fromLow := ofString ">=" ++ low
    let upToHigh := ofString "<=" ++ high
    let rows := fun stem => target.tokenRows (stem ++ behind ++ unit)
    (∃ between atLeast atMost : Selection,
      (rows ranged = some between ∧ rows swapped = some between) ∧
        (rows fromLow = some atLeast ∧ rows upToHigh = some atMost) ∧
        between.IsWithin (atLeast.and atMost) ∧
        (target.HoldsSingles → between = atLeast.and atMost)) ∧
      ∀ stem ∈ [ranged, swapped, fromLow, upToHigh], ∃ narrow wide : Selection,
        rows stem = some narrow ∧ target.tokenRows stem = some wide ∧ narrow.IsWithin wide := by
  intro ranged swapped fromLow upToHigh rows
  have least_eq : min least greatest = least := if_pos ordered
  have greatest_eq : max least greatest = greatest := if_pos ordered
  have readsRange := Term.readsAs_range isLow lowValue isHigh highValue
  rw [least_eq, greatest_eq] at readsRange
  have readsSwapped := Term.readsAs_range isHigh highValue isLow lowValue
  have readsFrom : Term.ReadsAs fromLow (.compare .atLeast least) :=
    Term.readsAs_compare .atLeast isLow lowValue
  have readsUpTo : Term.ReadsAs upToHigh (.compare .atMost greatest) :=
    Term.readsAs_compare .atMost isHigh highValue
  let asked := Term.unitAsked target.units unit
  have found {stem : Text} {test : Test} (reads : Term.ReadsAs stem test) :
      rows stem = some (target.quantityRows test asked) :=
    tokenRows_of_readsAs target reads isUnit white
  refine ⟨⟨target.quantityRows (.range least greatest) asked,
    target.quantityRows (.compare .atLeast least) asked,
    target.quantityRows (.compare .atMost greatest) asked,
    ⟨found readsRange, ?_⟩, ⟨found readsFrom, found readsUpTo⟩,
    quantityRows_range_isWithin asked, fun singles =>
      quantityRows_range_of_holdsSingles singles asked⟩, ?_⟩
  · rw [found readsSwapped, quantityRows_range_swap ordered]
  · have narrowed {stem : Text} {test : Test} (reads : Term.ReadsAs stem test) :
        ∃ narrow wide : Selection, rows stem = some narrow ∧
          target.tokenRows stem = some wide ∧ narrow.IsWithin wide :=
      ⟨_, _, found reads, tokenRows_of_unitless reads, quantityRows_isWithin_unitless test asked⟩
    simp only [List.forall_mem_cons, List.not_mem_nil, false_implies, implies_true, and_true]
    exact ⟨narrowed readsRange, narrowed readsSwapped, narrowed readsFrom, narrowed readsUpTo⟩

/-- Of lengths of 5, 15 and 25 meters and a weight of 15 kilograms, one lies between 10 and 20
meters. -/
theorem tokenRows_range_sample :
    let target : Target := ⟨Table.ofTexts [ofString "stock"]
      (["5 m", "15 m", "25 m", "15 kg"].map fun text => [some (ofString text)]), [0],
      .ofEntries [.ofStrings "METROS" ["M"], .ofStrings "KILOGRAMOS" ["KG"]]⟩
    let between : Selection := ⟨[false, true, false, false]⟩
    target.HoldsSingles ∧ target.tokenRows (ofString "10-20 m") = some between ∧
      target.tokenRows (ofString "20-10 m") = some between ∧
      ∃ atLeast atMost, target.tokenRows (ofString ">=10 m") = some atLeast ∧
        target.tokenRows (ofString "<=20 m") = some atMost ∧ between = atLeast.and atMost := by
  intro target between
  have isLow : Term.IsNumberText (ofString "10") :=
    ⟨ofString "10", .digit (by decide) (.one (by decide)), .inl rfl⟩
  have isHigh : Term.IsNumberText (ofString "20") :=
    ⟨ofString "20", .digit (by decide) (.one (by decide)), .inl rfl⟩
  have isUnit : Term.IsUnitText (ofString "m") :=
    ⟨by rintro _ ⟨⟩; decide +kernel, isBlank_eq_false_of_any (by decide)⟩
  have lowValue : Numeral.valueOf? (ofString "10") = some 10 := by decide +kernel
  have highValue : Numeral.valueOf? (ofString "20") = some 20 := by decide +kernel
  have singles : target.HoldsSingles := by
    have few : ∀ row ∈ target.table.rows, ∀ cell ∈ row[0]?.join,
        (Quantity.all cell.folded).length ≤ 1 := by
      decide +kernel
    refine ⟨0, fun looked member => List.mem_singleton.mp member, fun index cell isCell => ?_⟩
    obtain ⟨row, isRow, isCell⟩ := Option.bind_eq_some_iff.mp isCell
    exact few row (List.mem_of_getElem? isRow) cell isCell
  obtain ⟨⟨rows, atLeast, atMost, ⟨isRange, isSwapped⟩, ⟨isFrom, isUpTo⟩, -, same⟩, -⟩ :=
    tokenRows_range target isLow isHigh lowValue highValue (by decide +kernel) isUnit
      (show isBlankText [' '] = true from rfl)
  have isBetween : target.tokenRows (ofString "10-20 m") = some between := by decide +kernel
  obtain rfl : between = rows := Option.some.inj (isBetween.symm.trans isRange)
  exact ⟨singles, isBetween, isSwapped, atLeast, atMost, isFrom, isUpTo, same singles⟩

/-- In a cell with two numbers each comparison is met by another one, and none lies in the range. -/
example :
    let target : Target :=
      ⟨Table.ofTexts [ofString "stock"] [[some (ofString "5 y 25 m")]], [0], .empty⟩
    target.tokenRows (ofString "10-20") = some ⟨[false]⟩ ∧
      target.tokenRows (ofString ">=10") = some ⟨[true]⟩ ∧
        target.tokenRows (ofString "<=20") = some ⟨[true]⟩ := by
  decide +kernel

end Target

end TableSearch
