import TableSearch.Proofs.FloatOrder
import TableSearch.Proofs.Quantity
import TableSearch.Proofs.Term.Uppercase

/-!
# Numeric tokens

A number in a token is written as digit groups, perhaps with a dot at the end, and what stands
behind it decides where it ends. Main statement: a sign of comparison, a number and a unit are read
as the comparison, and two numbers around a hyphen and a unit as the range, with any white space
between the parts.
-/

namespace TableSearch

namespace Term

open Text Quantity

/-- How a number is written: digit groups, perhaps with a dot at the end. -/
def IsNumberText (text : Text) : Prop :=
  ∃ groups, IsGroups groups ∧ (text = groups ∨ text = groups ++ ['.'])

/-- How a unit is written, if there is one: it begins with a letter and holds no white space. -/
structure IsUnitText (unit : Text) : Prop where
  head : ∀ first ∈ unit.head?, isAlphabetic first = true
  visible : ∀ character ∈ unit, isBlank character = false

/-- No number goes on with the first character of a text. -/
def EndsNumber (text : Text) : Prop :=
  ∀ next ∈ text.head?, Text.isDigit next = false ∧ isSeparator next = false

variable {text numeral groups unit blanks rest : Text} {character : Char}

/-! ## Letters -/

/-- What a look at the letters shows: no digit and no white space is one, and neither is a sign of a
comparison, of a range or of a number. -/
private structure LettersChecked : Prop where
  digits : (digitTree.codes.all fun code => (alphabeticTree.lookup code).isNone) = true
  blanks : (blankTree.codes.all fun code => (alphabeticTree.lookup code).isNone) = true
  signs : (['<', '>', '=', '-', '.', ','].all fun sign => !isAlphabetic sign) = true

private theorem letters_checked : LettersChecked where
  digits := by decide +kernel
  blanks := by decide +kernel
  signs := by decide +kernel

private theorem not_isDigit_of_isAlphabetic (letter : isAlphabetic character = true) :
    Text.isDigit character = false :=
  IntervalTree.not_contains_of_apart letters_checked.digits letter

private theorem not_isBlank_of_isAlphabetic (letter : isAlphabetic character = true) :
    isBlank character = false :=
  IntervalTree.not_contains_of_apart letters_checked.blanks letter

private theorem ne_sign_of_isAlphabetic (letter : isAlphabetic character = true) {sign : Char}
    (isSign : sign ∈ ['<', '>', '=', '-', '.', ',']) : character ≠ sign := by
  rintro rfl
  have apart := List.all_eq_true.mp letters_checked.signs character isSign
  rw [letter] at apart
  cases apart

/-- A unit can begin with a letter. -/
theorem isUnitHead_of_isAlphabetic (letter : isAlphabetic character = true) :
    isUnitHead character = true := by
  have noSign : ['<', '>', '=', '-'].contains character = false := by
    rw [List.contains_eq_mem, decide_eq_false_iff_not]
    intro isSign
    exact ne_sign_of_isAlphabetic letter (List.mem_append_left ['.', ','] isSign) rfl
  rw [isUnitHead, not_isDigit_of_isAlphabetic letter, not_isBlank_of_isAlphabetic letter, noSign]
  rfl

/-! ## The end of a number -/

/-- No number goes on into a unit. -/
theorem IsUnitText.endsNumber (isUnit : IsUnitText unit) : EndsNumber unit := by
  intro first isFirst
  have letter := isUnit.head first isFirst
  refine ⟨not_isDigit_of_isAlphabetic letter, ?_⟩
  rw [isSeparator, decide_eq_false (ne_sign_of_isAlphabetic letter (by decide)),
    decide_eq_false (ne_sign_of_isAlphabetic letter (by decide))]
  rfl

private theorem EndsNumber.append (ends : EndsNumber rest) (white : isBlankText blanks = true) :
    EndsNumber (blanks ++ rest) := by
  cases blanks with
  | nil => exact ends
  | cons blank more =>
      rintro _ ⟨⟩
      have isWhite : isBlank blank = true := List.all_eq_true.mp white _ List.mem_cons_self
      exact ⟨not_isDigit_of_isBlank isWhite, not_isSeparator_of_isBlank isWhite⟩

/-! ## Numbers -/

section Numbers

variable {Result : Type} {accept : Text → Option Result} {result : Result}

private theorem longestNumeral_eq_none (noDigit : ∀ next ∈ text.head?, Text.isDigit next = false) :
    longestNumeral accept text = none := by
  cases text with
  | nil => rfl
  | cons first rest =>
      rw [longestNumeral_cons, noDigit first rfl]
      rfl

/-- Digit groups are read to their end where no group is readable behind them. -/
theorem longestNumeral_of_isGroups {dots : Text} (isGroups : IsGroups groups)
    (noDigit : ∀ next ∈ rest.head?, Text.isDigit next = false)
    (noGroup : groupedNumeral accept rest = none)
    (last : (dottedNumeral accept rest).or ((accept rest).map fun result => ([], result)) =
      some (dots, result)) :
    longestNumeral accept (groups ++ rest) = some (groups ++ dots, result) := by
  induction isGroups with
  | one isDigit =>
      rw [List.singleton_append, longestNumeral_cons, if_pos isDigit,
        longestNumeral_eq_none noDigit, noGroup, Option.none_or, Option.none_or, last]
      rfl
  | digit isDigit _ ih =>
      rw [List.cons_append, longestNumeral_cons, if_pos isDigit, ih, Option.some_or]
      rfl
  | group isDigit separates _ ih =>
      have noDigitNext := not_isDigit_of_isSeparator separates
      rw [isSeparator, Bool.or_eq_true, decide_eq_true_eq, decide_eq_true_eq] at separates
      rw [List.cons_append, List.cons_append, longestNumeral_cons, if_pos isDigit,
        longestNumeral_eq_none (by rintro next ⟨⟩; exact noDigitNext), Option.none_or,
        groupedNumeral, if_pos separates, ih]
      rfl

/-- A number is read whole where it ends and what is behind it is accepted. -/
theorem longestNumeral_of_isNumberText (isNumber : IsNumberText numeral) (ends : EndsNumber rest)
    (accepted : accept rest = some result) :
    longestNumeral accept (numeral ++ rest) = some (numeral, result) := by
  have noDigit : ∀ next ∈ rest.head?, Text.isDigit next = false := fun next isNext =>
    (ends next isNext).1
  obtain ⟨groups, isGroups, rfl | rfl⟩ := isNumber
  · have noSeparator {sign : Char} (separates : isSeparator sign = true) :
        rest.head? ≠ some sign := by
      intro isNext
      rw [(ends sign isNext).2] at separates
      cases separates
    have noGroup : groupedNumeral accept rest = none := by
      cases rest with
      | nil => rfl
      | cons separator more =>
          rw [groupedNumeral, if_neg]
          rintro (rfl | rfl)
          · exact noSeparator (by decide) rfl
          · exact noSeparator (by decide) rfl
    have alone : (dottedNumeral accept rest).or ((accept rest).map fun result => ([], result)) =
        some ([], result) := by
      rw [dottedNumeral, if_neg (noSeparator (by decide)), accepted]
      rfl
    have read := longestNumeral_of_isGroups isGroups noDigit noGroup alone
    rwa [List.append_nil] at read
  · rw [List.append_assoc]
    apply longestNumeral_of_isGroups isGroups
    · rintro next ⟨⟩
      decide
    · rw [List.singleton_append, groupedNumeral, if_pos (.inl rfl), longestNumeral_eq_none noDigit]
      rfl
    · rw [List.singleton_append, dottedNumeral, List.head?_cons, if_pos rfl, List.tail_cons,
        accepted]
      rfl

private theorem IsNumberText.digit (isDigit : Text.isDigit character = true)
    (isNumber : IsNumberText numeral) : IsNumberText (character :: numeral) := by
  obtain ⟨groups, isGroups, rfl | rfl⟩ := isNumber
  · exact ⟨_, .digit isDigit isGroups, .inl rfl⟩
  · exact ⟨_, .digit isDigit isGroups, .inr rfl⟩

private theorem IsNumberText.group {separator : Char} (isDigit : Text.isDigit character = true)
    (separates : isSeparator separator = true) (isNumber : IsNumberText numeral) :
    IsNumberText (character :: separator :: numeral) := by
  obtain ⟨groups, isGroups, rfl | rfl⟩ := isNumber
  · exact ⟨_, .group isDigit separates isGroups, .inl rfl⟩
  · exact ⟨_, .group isDigit separates isGroups, .inr rfl⟩

/-- What is read as a number is one that the text begins with, and what is behind it is accepted. -/
theorem exists_of_longestNumeral {text numeral : Text} {result : Result}
    (found : longestNumeral accept text = some (numeral, result)) :
    IsNumberText numeral ∧ ∃ rest, text = numeral ++ rest ∧ accept rest = some result := by
  match text with
  | [] => cases found
  | digit :: rest =>
      by_cases isDigit : Text.isDigit digit = true
      · rw [longestNumeral_cons, if_pos isDigit, Option.map_eq_some_iff] at found
        obtain ⟨⟨others, made⟩, found, same⟩ := found
        cases same
        rw [Option.or_eq_some_iff, Option.or_eq_some_iff, Option.or_eq_some_iff] at found
        rcases found with longer | ⟨-, grouped | ⟨-, dotted | ⟨-, alone⟩⟩⟩
        · obtain ⟨isNumber, behind, rfl, accepted⟩ := exists_of_longestNumeral longer
          exact ⟨isNumber.digit isDigit, behind, rfl, accepted⟩
        · match rest with
          | [] => cases grouped
          | separator :: more =>
              by_cases separates : separator = '.' ∨ separator = ','
              · rw [groupedNumeral, if_pos separates, Option.map_eq_some_iff] at grouped
                obtain ⟨⟨last, _⟩, found, same⟩ := grouped
                cases same
                obtain ⟨isNumber, behind, rfl, accepted⟩ := exists_of_longestNumeral found
                have isSign : isSeparator separator = true := by
                  rwa [isSeparator, Bool.or_eq_true, decide_eq_true_eq, decide_eq_true_eq]
                exact ⟨isNumber.group isDigit isSign, behind, rfl, accepted⟩
              · rw [groupedNumeral, if_neg separates] at grouped
                cases grouped
        · by_cases dot : rest.head? = some '.'
          · obtain ⟨behind, rfl⟩ := List.head?_eq_some_iff.mp dot
            rw [dottedNumeral, if_pos dot, Option.map_eq_some_iff] at dotted
            obtain ⟨_, accepted, same⟩ := dotted
            cases same
            exact ⟨⟨[digit], .one isDigit, .inr rfl⟩, behind, rfl, accepted⟩
          · rw [dottedNumeral, if_neg dot] at dotted
            cases dotted
        · obtain ⟨_, accepted, same⟩ := Option.map_eq_some_iff.mp alone
          cases same
          exact ⟨⟨[digit], .one isDigit, .inl rfl⟩, rest, rfl, accepted⟩
      · rw [longestNumeral_cons, if_neg isDigit] at found
        cases found

end Numbers

/-! ## White space and units -/

private theorem dropWhile_blanks (white : isBlankText blanks = true)
    (visible : ∀ first ∈ rest.head?, isBlank first = false) :
    (blanks ++ rest).dropWhile isBlank = rest :=
  dropWhile_append_of_stops (List.all_eq_true.mp white) visible

/-- White space and a unit can stand behind a number. -/
theorem unitTail_append (white : isBlankText blanks = true) (isUnit : IsUnitText unit) :
    unitTail (blanks ++ unit) = some (if unit = [] then none else some unit) := by
  have visible : ∀ first ∈ unit.head?, isBlank first = false := fun first isFirst =>
    isUnit.visible first (List.mem_of_mem_head? isFirst)
  rw [unitTail, dropWhile_blanks white visible]
  cases unit with
  | nil => rfl
  | cons head rest =>
      have shown : rest.all (!isBlank ·) = true := List.all_eq_true.mpr fun character member => by
        rw [isUnit.visible character (List.mem_cons_of_mem _ member)]
        rfl
      dsimp only
      rw [isUnitHead_of_isAlphabetic (isUnit.head head rfl), shown]
      rfl

/-- The two ends of a token without the white space there, and without the white space in front of a
unit that is missing. -/
theorem exists_trimmed_eq {leading core behind trailing : Text} (nonempty : core ≠ [])
    (isTrimmed : IsTrimmed core) (visible : ∀ character ∈ unit, isBlank character = false)
    (leads : isBlankText leading = true) (stands : isBlankText behind = true)
    (trails : isBlankText trailing = true) :
    ∃ blanks, isBlankText blanks = true ∧
      trimmed (leading ++ (core ++ (behind ++ (unit ++ trailing)))) = core ++ (blanks ++ unit) := by
  rw [trimmed_blanks_append leads]
  cases unit with
  | nil =>
      refine ⟨[], rfl, ?_⟩
      rw [List.nil_append, ← List.append_assoc, trimmed_append_blanks trails,
        trimmed_append_blanks stands, trimmed_of_isTrimmed isTrimmed]
      simp
  | cons head rest =>
      refine ⟨behind, stands, ?_⟩
      rw [← List.append_assoc, ← List.append_assoc, trimmed_append_blanks trails, List.append_assoc]
      apply trimmed_of_isTrimmed
      refine ⟨fun first isFirst => ?_, fun last isLast => ?_⟩
      · rw [List.head?_append_of_ne_nil _ nonempty] at isFirst
        exact isTrimmed.1 first isFirst
      · rw [← List.append_assoc, List.getLast?_append_of_ne_nil _ (List.cons_ne_nil head rest)]
          at isLast
        exact visible last (List.mem_of_getLast? isLast)

/-! ## Comparisons and ranges -/

/-- A number begins with a digit. -/
theorem IsNumberText.exists_cons (isNumber : IsNumberText numeral) :
    ∃ digit rest, numeral = digit :: rest ∧ Text.isDigit digit = true := by
  obtain ⟨groups, isGroups, rfl | rfl⟩ := isNumber
  · exact isGroups.exists_cons
  · obtain ⟨digit, rest, rfl, isDigit⟩ := isGroups.exists_cons
    exact ⟨digit, rest ++ ['.'], rfl, isDigit⟩

theorem IsNumberText.ne_nil (isNumber : IsNumberText numeral) : numeral ≠ [] := by
  obtain ⟨digit, rest, rfl, -⟩ := isNumber.exists_cons
  exact List.cons_ne_nil digit rest

/-- A number is digits and separators. -/
theorem IsNumberText.isNumeric (isNumber : IsNumberText numeral) : IsNumeric numeral := by
  obtain ⟨groups, isGroups, rfl | rfl⟩ := isNumber
  · exact isGroups.isNumeric
  · exact List.forall_mem_append.mpr
      ⟨isGroups.isNumeric, List.forall_mem_singleton.mpr (.inr (by decide))⟩

/-- A number holds no white space. -/
theorem IsNumberText.isBlank_eq_false (isNumber : IsNumberText numeral) :
    ∀ character ∈ numeral, isBlank character = false :=
  isNumber.isNumeric.isBlank_eq_false

/-- A sign of comparison is read where no further sign follows it. -/
theorem comparisonSign_symbol (comparison : Comparison) {operand : Text}
    (noEqual : operand.head? ≠ some '=') :
    comparisonSign (ofString comparison.symbol ++ operand) = some (comparison, operand) := by
  cases comparison with
  | above =>
      change comparisonSign ('>' :: operand) = _
      rw [comparisonSign_eq, List.head?_cons, if_pos rfl, List.tail_cons, if_neg noEqual]
  | below =>
      change comparisonSign ('<' :: operand) = _
      rw [comparisonSign_eq, List.head?_cons, if_neg (by decide), if_pos rfl, List.tail_cons,
        if_neg noEqual]
  | atLeast => rfl
  | atMost => rfl
  | equal => rfl

/-- What is no digit does not begin a number. -/
theorem IsNumberText.head?_ne {sign : Char} (isNumber : IsNumberText numeral)
    (noDigit : Text.isDigit sign = false) (rest : Text) : (numeral ++ rest).head? ≠ some sign := by
  intro starts
  obtain ⟨digit, more, rfl, isDigit⟩ := isNumber.exists_cons
  rw [← Option.some.inj starts, isDigit] at noDigit
  cases noDigit

private theorem head?_append_ne_of_isBlankText {sign : Char} (white : isBlankText blanks = true)
    (visible : isBlank sign = false) (noSign : rest.head? ≠ some sign) :
    (blanks ++ rest).head? ≠ some sign := by
  cases blanks with
  | nil => exact noSign
  | cons blank more =>
      intro starts
      have isWhite : isBlank blank = true := List.all_eq_true.mp white _ List.mem_cons_self
      rw [← Option.some.inj starts, isWhite] at visible
      cases visible

/-- A token without a sign of comparison in front is no comparison. -/
theorem comparison?_eq_none {token : Text} (above : token.head? ≠ some '>')
    (below : token.head? ≠ some '<') (equal : token.head? ≠ some '=') :
    comparison? token = none := by
  rw [comparison?, comparisonSign_eq, if_neg above, if_neg below, if_neg equal]
  rfl

/-- White space before a number is passed over, and no more. -/
theorem dropWhile_number (isNumber : IsNumberText numeral) (white : isBlankText blanks = true)
    (rest : Text) : (blanks ++ (numeral ++ rest)).dropWhile isBlank = numeral ++ rest := by
  apply dropWhile_blanks white
  obtain ⟨digit, more, rfl, isDigit⟩ := isNumber.exists_cons
  rintro _ ⟨⟩
  exact (isNormal_of_isDigit isDigit).not_isBlank

section Tokens

variable {other before between behind : Text} {one two : Float}

/-- The number and the unit that end a token. -/
theorem longestNumeral_unitTail (isNumber : IsNumberText numeral) (isUnit : IsUnitText unit)
    (stands : isBlankText behind = true) :
    longestNumeral unitTail (numeral ++ (behind ++ unit)) =
      some (numeral, if unit = [] then none else some unit) :=
  longestNumeral_of_isNumberText isNumber (isUnit.endsNumber.append stands)
    (unitTail_append stands isUnit)

/-- A sign of comparison, a number and a unit are read as the comparison, whatever white space is
between them. -/
theorem comparison?_of_isNumberText (comparison : Comparison) (isNumber : IsNumberText numeral)
    (value : Numeral.valueOf? numeral = some one) (isUnit : IsUnitText unit)
    (comes : isBlankText before = true) (stands : isBlankText behind = true) :
    comparison? (ofString comparison.symbol ++ (before ++ (numeral ++ (behind ++ unit)))) =
      some (.compare comparison one, if unit = [] then none else some unit) := by
  have sign := comparisonSign_symbol comparison (head?_append_ne_of_isBlankText comes (by decide)
    (isNumber.head?_ne (by decide) (behind ++ unit)))
  rw [comparison?, sign]
  simp only [Option.bind_eq_bind, Option.bind_some]
  rw [dropWhile_number isNumber comes, longestNumeral_unitTail isNumber isUnit stands,
    Option.bind_some, value]
  rfl

/-- A hyphen between two numbers ends the first of them. -/
theorem rangeTail_append (isOther : IsNumberText other) (isUnit : IsUnitText unit)
    (comes : isBlankText before = true) (parts : isBlankText between = true)
    (stands : isBlankText behind = true) :
    rangeTail (before ++ ('-' :: (between ++ (other ++ (behind ++ unit))))) =
      some (other, if unit = [] then none else some unit) := by
  rw [rangeTail, dropWhile_blanks comes (by rintro _ ⟨⟩; decide)]
  change longestNumeral unitTail ((between ++ (other ++ (behind ++ unit))).dropWhile isBlank) = _
  rw [dropWhile_number isOther parts, longestNumeral_unitTail isOther isUnit stands]

/-- Two numbers around a hyphen and a unit are read as the range between them, whatever white space
is between the parts. -/
theorem range?_of_isNumberText (isNumber : IsNumberText numeral)
    (value : Numeral.valueOf? numeral = some one) (isOther : IsNumberText other)
    (otherValue : Numeral.valueOf? other = some two) (isUnit : IsUnitText unit)
    (comes : isBlankText before = true) (parts : isBlankText between = true)
    (stands : isBlankText behind = true) :
    range? (numeral ++ (before ++ ('-' :: (between ++ (other ++ (behind ++ unit)))))) =
      some (.range (min one two) (max one two), if unit = [] then none else some unit) := by
  have ends : EndsNumber ('-' :: (between ++ (other ++ (behind ++ unit)))) := by
    rintro _ ⟨⟩
    decide
  rw [range?, longestNumeral_of_isNumberText isNumber (ends.append comes)
    (rangeTail_append isOther isUnit comes parts stands)]
  have least : min one two = if one ≤ two then one else two := rfl
  have greatest : max one two = if one ≤ two then two else one := rfl
  simp only [Option.bind_eq_bind, Option.bind_some, value, otherValue, least, greatest]
  split <;> rfl

/-- A token whose parts in front of the unit are read with any white space behind them. -/
theorem classify_of_reading (units : UnitTable) {leading trailing : Text} (core : Text)
    (test : Test) (nonempty : core ≠ []) (isTrimmed : IsTrimmed core)
    (noQuote : core.head? ≠ some '"')
    (isUnit : IsUnitText unit) (leads : isBlankText leading = true)
    (stands : isBlankText behind = true) (trails : isBlankText trailing = true)
    (reading : ∀ blanks, isBlankText blanks = true →
      (comparison? (core ++ (blanks ++ unit))).or (range? (core ++ (blanks ++ unit))) =
        some (test, if unit = [] then none else some unit)) :
    classify units (leading ++ (core ++ (behind ++ (unit ++ trailing)))) =
      some ⟨leading ++ (core ++ (behind ++ (unit ++ trailing))), test,
        if unit = [] then none else units.resolve unit, false⟩ := by
  obtain ⟨blanks, white, trim⟩ := exists_trimmed_eq nonempty isTrimmed isUnit.visible leads stands
    trails
  have noPhrase : unquote (core ++ (blanks ++ unit)) = none := by
    apply unquote_eq_none
    rwa [List.head?_append_of_ne_nil _ nonempty]
  have asked : (if unit = [] then none else some unit : Option Text).bind units.resolve =
      if unit = [] then none else units.resolve unit := by
    split <;> rfl
  rw [classify, trim, noPhrase]
  simp only [reading blanks white, asked]

/-- **Numeric tokens are read as they are written.** With any white space between its parts and at
its ends, a sign of comparison, a number and perhaps a unit are a comparison with the value of the
number, and two numbers around a hyphen, and perhaps a unit, are the range between their values,
whichever of them is written first. The unit asked for is the one that the table knows under the
text of the unit, and the token is kept as it is. -/
theorem classify_of_isNumberText (units : UnitTable) {leading trailing : Text}
    (isNumber : IsNumberText numeral) (value : Numeral.valueOf? numeral = some one)
    (isOther : IsNumberText other) (otherValue : Numeral.valueOf? other = some two)
    (isUnit : IsUnitText unit)
    (white : ∀ blanks ∈ [leading, before, between, behind, trailing], isBlankText blanks = true) :
    let resolved := if unit = [] then none else units.resolve unit
    let compared := fun comparison : Comparison =>
      leading ++ ofString comparison.symbol ++ before ++ numeral ++ behind ++ unit ++ trailing
    let ranged :=
      leading ++ numeral ++ before ++ ['-'] ++ between ++ other ++ behind ++ unit ++ trailing
    (∀ comparison, classify units (compared comparison) =
        some ⟨compared comparison, .compare comparison one, resolved, false⟩) ∧
      classify units ranged =
        some ⟨ranged, .range (min one two) (max one two), resolved, false⟩ ∧
      min one two ≤ max one two := by
  simp only [List.forall_mem_cons, List.not_mem_nil, false_implies, implies_true, and_true] at white
  obtain ⟨leads, comes, parts, stands, trails⟩ := white
  intro resolved compared ranged
  have visible := isNumber.isBlank_eq_false
  have nonempty := isNumber.ne_nil
  refine ⟨fun comparison => ?_, ?_, Numeral.min_le_max_of_valueOf? value otherValue⟩
  · have sign : ofString comparison.symbol ≠ [] ∧ (ofString comparison.symbol).head? ≠ some '"' ∧
        (ofString comparison.symbol).any isBlank = false := by
      cases comparison <;> decide
    obtain ⟨hasSign, noQuote, signVisible⟩ := sign
    have read := classify_of_reading units (ofString comparison.symbol ++ (before ++ numeral))
      (.compare comparison one) (List.append_ne_nil_of_left_ne_nil hasSign _)
      (isTrimmed_append hasSign nonempty (isBlank_eq_false_of_any signVisible) visible before)
      (by rwa [List.head?_append_of_ne_nil _ hasSign]) isUnit leads stands trails
      fun blanks white => by
        rw [List.append_assoc, List.append_assoc,
          comparison?_of_isNumberText comparison isNumber value isUnit comes white]
        rfl
    simpa only [compared, List.append_assoc] using read
  · have read := classify_of_reading units
      (numeral ++ ((before ++ ('-' :: between)) ++ other)) (.range (min one two) (max one two))
      (List.append_ne_nil_of_left_ne_nil nonempty _)
      (isTrimmed_append nonempty isOther.ne_nil visible isOther.isBlank_eq_false _)
      (isNumber.head?_ne (by decide) _) isUnit leads stands trails
      fun blanks white => by
        have split : numeral ++ ((before ++ ('-' :: between)) ++ other) ++ (blanks ++ unit) =
            numeral ++ (before ++ ('-' :: (between ++ (other ++ (blanks ++ unit))))) := by
          simp only [List.append_assoc, List.cons_append]
        rw [split, comparison?_eq_none (isNumber.head?_ne (by decide) _)
          (isNumber.head?_ne (by decide) _) (isNumber.head?_ne (by decide) _), Option.none_or,
          range?_of_isNumberText isNumber value isOther otherValue isUnit comes parts white]
    simpa only [ranged, List.append_assoc, List.cons_append, List.nil_append] using read

/-- The range of twenty and two and a half begins with the number that is written last. -/
theorem classify_of_isNumberText_sample :
    let units := UnitTable.ofEntries [.ofStrings "KILOGRAMOS" ["KG"]]
    let kilograms : Option UnitId := some ⟨ofString "KILOGRAMOS"⟩
    (IsNumberText (ofString "20.") ∧ IsNumberText (ofString "2,5") ∧ IsUnitText (ofString "kg")) ∧
      classify units (ofString " >= 20. kg ") =
        some ⟨ofString " >= 20. kg ", .compare .atLeast 20, kilograms, false⟩ ∧
      classify units (ofString " 20. - 2,5 kg ") =
        some ⟨ofString " 20. - 2,5 kg ", .range 2.5 20, kilograms, false⟩ := by
  intro units kilograms
  have isNumber : IsNumberText (ofString "20.") :=
    ⟨['2', '0'], .digit (by decide) (.one (by decide)), .inr rfl⟩
  have isOther : IsNumberText (ofString "2,5") :=
    ⟨['2', ',', '5'], .group (by decide) (by decide) (.one (by decide)), .inl rfl⟩
  have isUnit : IsUnitText (ofString "kg") :=
    ⟨by rintro _ ⟨⟩; decide +kernel, isBlank_eq_false_of_any (by decide)⟩
  have value : Numeral.valueOf? (ofString "20.") = some 20 := by decide +kernel
  have otherValue : Numeral.valueOf? (ofString "2,5") = some 2.5 := by decide +kernel
  have resolved : units.resolve (ofString "kg") = kilograms := by decide +kernel
  have bounds : min 20 2.5 = (2.5 : Float) ∧ max 20 2.5 = (20 : Float) := by decide +kernel
  have white : ∀ blanks ∈ [[' '], [' '], [' '], [' '], [' ']], isBlankText blanks = true :=
    List.all_eq_true.mp (by decide)
  obtain ⟨compared, ranged, -⟩ :=
    classify_of_isNumberText units isNumber value isOther otherValue isUnit white
  rw [if_neg (by decide), resolved] at compared ranged
  rw [bounds.1, bounds.2] at ranged
  exact ⟨⟨isNumber, isOther, isUnit⟩, compared .atLeast, ranged⟩

end Tokens

/-! ## What a comparison is read from -/

/-- A unit that is read behind a number stands there, after white space if there is any. -/
theorem exists_of_unitTail (found : unitTail rest = some (some unit)) :
    ∃ blanks, isBlankText blanks = true ∧ rest = blanks ++ unit ∧ unit ≠ [] ∧
      ∀ character ∈ unit, isBlank character = false := by
  have split := List.takeWhile_append_dropWhile (p := isBlank) (l := rest)
  rw [unitTail] at found
  cases behind : rest.dropWhile isBlank with
  | nil =>
      rw [behind] at found
      cases found
  | cons head more =>
      rw [behind] at found split
      dsimp only at found
      by_cases read : (isUnitHead head && more.all (!isBlank ·)) = true
      · rw [if_pos read] at found
        cases found
        rw [Bool.and_eq_true, List.all_eq_true] at read
        refine ⟨rest.takeWhile isBlank, List.all_takeWhile, split.symm, List.cons_ne_nil head more,
          List.forall_mem_cons.mpr ⟨not_isBlank_of_isUnitHead read.1, fun character member => ?_⟩⟩
        have shown := read.2 character member
        rwa [Bool.not_eq_true'] at shown
      · rw [if_neg read] at found
        cases found

/-- What is read as a comparison begins with its sign; behind it are the number and perhaps the text
of a unit. -/
theorem exists_of_comparison? {text : Text} {test : Test} {spelling : Option Text}
    (isComparison : comparison? text = some (test, spelling)) :
    ∃ comparison operand numeral bound, test = .compare comparison bound ∧
      comparisonSign text = some (comparison, operand) ∧
        longestNumeral unitTail (operand.dropWhile isBlank) = some (numeral, spelling) ∧
          Numeral.valueOf? numeral = some bound := by
  rw [comparison?, Option.bind_eq_bind, Option.bind_eq_some_iff] at isComparison
  obtain ⟨⟨comparison, operand⟩, isSign, isComparison⟩ := isComparison
  obtain ⟨⟨numeral, unit⟩, isNumeral, isComparison⟩ := Option.bind_eq_some_iff.mp isComparison
  obtain ⟨bound, isValue, same⟩ := Option.bind_eq_some_iff.mp isComparison
  cases same
  exact ⟨comparison, operand, numeral, bound, rfl, isSign, isNumeral, isValue⟩

/-- A term that compares is read from a comparison in its token. -/
theorem exists_of_classify {units : UnitTable} {token : Text} {term : Term}
    {comparison : Comparison} {bound : Float} (isTerm : classify units token = some term)
    (compares : term.test = .compare comparison bound) :
    term.negated = false ∧ ∃ spelling,
      comparison? (trimmed token) = some (.compare comparison bound, spelling) ∧
        term.unit = spelling.bind units.resolve := by
  rcases classify_cases isTerm with ⟨word, rfl⟩ | ⟨test, spelling, read, rfl⟩
  · cases compares
  · cases compares
    rcases Option.or_eq_some_iff.mp read with isComparison | ⟨-, isRange⟩
    · exact ⟨rfl, spelling, isComparison, rfl⟩
    · obtain ⟨low, high, same⟩ := exists_range_of_range? isRange
      cases same

end Term

end TableSearch
