import TableSearch.Proofs.Text.Fold
import TableSearch.Term.Classify

/-!
# Which tokens ask for something

A token asks for something exactly where its normal form is not empty: quotes and signs of
comparison leave nothing there, and every number begins with a digit, which stays. A word in normal
form is read as itself or as a range of numbers.
-/

namespace TableSearch.Term

open Text

variable {units : UnitTable}

/-- A phrase is what stands between a double quote at the start and one at the end. -/
theorem unquote_eq_some_iff {token phrase : Text} :
    unquote token = some phrase ↔ token = '"' :: (phrase ++ ['"']) := by
  constructor
  · intro quoted
    cases token with
    | nil => cases quoted
    | cons first rest =>
        by_cases opens : first = '"'
        · subst opens
          by_cases closes : rest.getLast? = some '"'
          · obtain ⟨before, rfl⟩ := List.getLast?_eq_some_iff.mp closes
            have inside : some (before ++ ['"']).dropLast = some phrase := by
              rw [← quoted, unquote, if_pos closes]
            rw [List.dropLast_concat] at inside
            rw [Option.some.inj inside]
          · rw [unquote, if_neg closes] at quoted
            cases quoted
        · have none : unquote (first :: rest) = .none := by
            unfold unquote
            split
            · next same => exact absurd (List.cons.inj same).1 opens
            · rfl
          rw [none] at quoted
          cases quoted
  · rintro rfl
    rw [unquote, if_pos List.getLast?_concat, List.dropLast_concat]

/-- A token that does not begin with a double quote is no phrase. -/
theorem unquote_eq_none {token : Text} (opens : token.head? ≠ some '"') : unquote token = none := by
  cases quoted : unquote token with
  | none => rfl
  | some phrase =>
      rw [unquote_eq_some_iff.mp quoted] at opens
      exact absurd rfl opens

/-! ## Numbers begin with digits -/

/-- A numeral that is read begins with a digit. -/
theorem exists_digit_of_longestNumeral {Result : Type} {accept : Text → Option Result}
    {text : Text} {found : Text × Result} (isNumeral : longestNumeral accept text = some found) :
    ∃ digit rest, text = digit :: rest ∧ Text.isDigit digit = true := by
  cases text with
  | nil => cases isNumeral
  | cons first rest =>
      by_cases digit : Text.isDigit first = true
      · exact ⟨first, rest, rfl, digit⟩
      · unfold longestNumeral at isNumeral
        simp only [digit, Bool.false_eq_true, ↓reduceIte] at isNumeral
        cases isNumeral

/-- A comparison begins with its sign, and a number stands behind it. -/
theorem exists_digit_of_comparison? {token : Text} {found : Test × Option Text}
    (isComparison : comparison? token = some found) :
    ∃ digit ∈ token, Text.isDigit digit = true := by
  rw [comparison?, Option.bind_eq_bind, Option.bind_eq_some_iff] at isComparison
  obtain ⟨⟨comparison, operand⟩, sign, rest⟩ := isComparison
  obtain ⟨⟨numeral, unit⟩, isNumeral, -⟩ := Option.bind_eq_some_iff.mp rest
  obtain ⟨digit, behind, starts, isDigit⟩ := exists_digit_of_longestNumeral isNumeral
  have inOperand : digit ∈ operand := by
    apply (List.dropWhile_sublist isBlank).subset
    rw [starts]
    exact List.mem_cons_self
  refine ⟨digit, ?_, isDigit⟩
  unfold comparisonSign at sign
  split at sign <;> cases sign <;> simp only [List.mem_cons, inOperand, or_true]

/-- A token that is a range has a digit. -/
theorem exists_digit_of_range? {token : Text} {found : Test × Option Text}
    (isRange : range? token = some found) : ∃ digit ∈ token, Text.isDigit digit = true := by
  rw [range?, Option.bind_eq_bind, Option.bind_eq_some_iff] at isRange
  obtain ⟨⟨numeral, unit⟩, isNumeral, -⟩ := isRange
  obtain ⟨digit, behind, rfl, isDigit⟩ := exists_digit_of_longestNumeral isNumeral
  exact ⟨digit, List.mem_cons_self, isDigit⟩

/-! ## Tokens that ask for something -/

/-- A text has a normal form to look for where one of its characters is not mute. -/
theorem normalize_ne_nil_iff (text : Text) :
    normalize text ≠ [] ↔ ∃ character ∈ text, isMute character = false := by
  rw [Ne, normalize_eq_nil_iff]
  simp only [Classical.not_forall, exists_prop, Bool.not_eq_true]

/-- A text that asks for something stands for its normal form. -/
theorem ofWord_eq_some {text : Text} (asks : normalize text ≠ []) (spelling : Text) :
    ofWord spelling text = some ⟨spelling, .word (normalize text), none, false⟩ := by
  rw [ofWord]
  simp only [List.isEmpty_eq_false_iff.mpr asks, Bool.false_eq_true, ↓reduceIte]

/-- A text stands for a word where it asks for something. -/
theorem isSome_ofWord_iff (spelling text : Text) :
    (ofWord spelling text).isSome = true ↔ normalize text ≠ [] := by
  constructor
  · intro isTerm nothing
    rw [ofWord, nothing] at isTerm
    cases isTerm
  · intro asks
    rw [ofWord_eq_some asks]
    rfl

/-- What is read as a word asks for the word in normal form, and for no unit. -/
theorem eq_of_ofWord {spelling text : Text} {term : Term}
    (isWord : ofWord spelling text = some term) :
    term = ⟨spelling, .word (normalize text), none, false⟩ := by
  have asks := (isSome_ofWord_iff spelling text).mp (Option.isSome_of_eq_some isWord)
  rw [ofWord_eq_some asks] at isWord
  exact (Option.some.inj isWord).symm

/-- A term is read from its token as a word, or as a comparison or a range with the unit that the
table knows under the text behind the number. -/
theorem classify_cases {token : Text} {term : Term} (isTerm : classify units token = some term) :
    (∃ word, term = ⟨token, .word word, none, false⟩) ∨
      ∃ test spelling,
        (comparison? (trimmed token)).or (range? (trimmed token)) = some (test, spelling) ∧
          term = ⟨token, test, spelling.bind units.resolve, false⟩ := by
  rw [classify] at isTerm
  cases quoted : unquote (trimmed token) with
  | some phrase =>
      rw [quoted] at isTerm
      exact .inl ⟨normalize phrase, eq_of_ofWord isTerm⟩
  | none =>
      rw [quoted] at isTerm
      dsimp only at isTerm
      cases read : (comparison? (trimmed token)).or (range? (trimmed token)) with
      | none =>
          rw [read] at isTerm
          exact .inl ⟨normalize (trimmed token), eq_of_ofWord isTerm⟩
      | some reading =>
          obtain ⟨test, spelling⟩ := reading
          rw [read] at isTerm
          exact .inr ⟨test, spelling, rfl, (Option.some.inj isTerm).symm⟩

/-- A unit that a term asks for is one that the table knows under some text. -/
theorem exists_resolve_of_classify {token : Text} {term : Term} {required : UnitId}
    (isTerm : classify units token = some term) (asks : term.unit = some required) :
    ∃ spelling, units.resolve spelling = some required := by
  rcases classify_cases isTerm with ⟨word, rfl⟩ | ⟨test, written, -, rfl⟩
  · cases asks
  · obtain ⟨spelling, -, resolved⟩ := Option.bind_eq_some_iff.mp asks
    exact ⟨spelling, resolved⟩

/-- A token stands for a term where something of it is left in normal form. -/
theorem isSome_classify_iff (units : UnitTable) (token : Text) :
    (classify units token).isSome = true ↔ normalize token ≠ [] := by
  have ofDigit {digit : Char} (inside : digit ∈ trimmed token)
      (isDigit : Text.isDigit digit = true) : normalize token ≠ [] :=
    (normalize_ne_nil_iff token).mpr
      ⟨digit, mem_of_mem_trimmed inside, (isNormal_of_isDigit isDigit).not_isMute⟩
  rw [classify]
  cases quoted : unquote (trimmed token) with
  | some phrase =>
      have whole := unquote_eq_some_iff.mp quoted
      rw [isSome_ofWord_iff, normalize_ne_nil_iff, normalize_ne_nil_iff]
      constructor
      · rintro ⟨character, inside, audible⟩
        refine ⟨character, mem_of_mem_trimmed ?_, audible⟩
        rw [whole]
        exact List.mem_cons_of_mem _ (List.mem_append_left _ inside)
      · rintro ⟨character, inside, audible⟩
        have noQuote : character ≠ '"' := ne_sign_of_audible audible (by decide)
        have inTrimmed := mem_trimmed_of_mem inside (not_isBlank_of_audible audible)
        rw [whole, List.mem_cons, List.mem_append, List.mem_singleton] at inTrimmed
        refine ⟨character, ?_, audible⟩
        rcases inTrimmed with opening | inPhrase | closing
        · exact absurd opening noQuote
        · exact inPhrase
        · exact absurd closing noQuote
  | none =>
      cases isComparison : comparison? (trimmed token) with
      | some found =>
          obtain ⟨digit, inside, isDigit⟩ := exists_digit_of_comparison? isComparison
          exact iff_of_true rfl (ofDigit inside isDigit)
      | none =>
          cases isRange : range? (trimmed token) with
          | some found =>
              obtain ⟨digit, inside, isDigit⟩ := exists_digit_of_range? isRange
              exact iff_of_true rfl (ofDigit inside isDigit)
          | none =>
              refine (isSome_ofWord_iff token (trimmed token)).trans ?_
              rw [normalize_ne_nil_iff, normalize_ne_nil_iff]
              constructor
              · rintro ⟨character, inside, audible⟩
                exact ⟨character, mem_of_mem_trimmed inside, audible⟩
              · rintro ⟨character, inside, audible⟩
                exact ⟨character, mem_trimmed_of_mem inside (not_isBlank_of_audible audible),
                  audible⟩

/-- A text in double quotes is read as a phrase, whatever stands in it. -/
theorem classify_quotation (units : UnitTable) (text : Text) :
    classify units ('"' :: (text ++ ['"'])) = ofWord ('"' :: (text ++ ['"'])) text := by
  rw [classify, trimmed_of_isTrimmed (isTrimmed_quotation text), unquote_eq_some_iff.mpr rfl]

/-- A text in double quotes asks for its normal form. -/
theorem classify_quoted {text : Text} (asks : normalize text ≠ []) :
    classify units ('"' :: (text ++ ['"'])) =
      some ⟨'"' :: (text ++ ['"']), .word (normalize text), none, false⟩ := by
  rw [classify_quotation, ofWord_eq_some asks]

/-- A word in normal form is no comparison. -/
theorem comparison?_of_forall {word : Text} (normal : ∀ character ∈ word, IsNormal character) :
    comparison? word = none := by
  have noSign : comparisonSign word = none := by
    unfold comparisonSign
    split
    all_goals first
      | rfl
      | exact absurd rfl ((normal _ List.mem_cons_self).ne_sign (by decide))
  rw [comparison?, noSign]
  rfl

/-- What is read as a range of numbers tests for a range. -/
theorem exists_range_of_range? {token : Text} {test : Test} {unit : Option Text}
    (isRange : range? token = some (test, unit)) : ∃ low high, test = .range low high := by
  rw [range?, Option.bind_eq_bind, Option.bind_eq_some_iff] at isRange
  obtain ⟨⟨first, second, tail⟩, -, values⟩ := isRange
  obtain ⟨one, -, values⟩ := Option.bind_eq_some_iff.mp values
  obtain ⟨other, -, same⟩ := Option.bind_eq_some_iff.mp values
  obtain ⟨isTest, -⟩ := Prod.mk.inj (Option.some.inj same)
  rw [← isTest]
  split
  · exact ⟨one, other, rfl⟩
  · exact ⟨other, one, rfl⟩

/-- A word in normal form is read as a range of numbers, or else as itself. -/
theorem classify_of_forall {word : Text} (nonempty : word ≠ [])
    (normal : ∀ character ∈ word, IsNormal character) :
    classify units word = some (match range? word with
      | some (test, unit) => ⟨word, test, unit.bind units.resolve, false⟩
      | none => ⟨word, .word word, none, false⟩) := by
  have isTrimmed : IsTrimmed word :=
    ⟨fun _ isFirst => (normal _ (List.mem_of_mem_head? isFirst)).not_isBlank,
      fun _ isLast => (normal _ (List.mem_of_getLast? isLast)).not_isBlank⟩
  have noPhrase : unquote word = none := by
    apply unquote_eq_none
    intro opens
    exact (normal _ (List.mem_of_mem_head? opens)).ne_sign (by decide) rfl
  rw [classify, trimmed_of_isTrimmed isTrimmed, noPhrase, comparison?_of_forall normal,
    Option.none_or]
  cases range? word with
  | some found => rfl
  | none =>
      have same := normalize_of_forall nonempty normal
      refine (ofWord_eq_some (by rw [same]; exact nonempty) _).trans ?_
      rw [same]

end TableSearch.Term
