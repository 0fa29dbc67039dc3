import TableSearch.Proofs.Term.Classify
import TableSearch.Proofs.Text.Uppercase

/-!
# Terms in upper case

The signs and the digits of a token stay in upper case, and a unit is known by its normal form,
which does not see case. Main statement: a token in upper case stands for the term of the token,
only that the term keeps the token it was read from.
-/

namespace TableSearch.Term

open Text

/-- A term with the token it was read from in upper case. -/
def uppercase (term : Term) : Term :=
  { term with spelling := Text.uppercase term.spelling }

/-! ## Signs -/

variable {sign : Char} {rest token : Text}

/-- Upper case leaves a sign that queries are read by. -/
theorem uppercase_sign (isSign : sign ∈ syntaxSigns) (rest : Text) :
    Text.uppercase (sign :: rest) = sign :: Text.uppercase rest :=
  uppercase_cons_of_isSyntax (isSyntax_of_mem isSign) rest

private theorem unquote_uppercase (token : Text) :
    unquote (Text.uppercase token) = (unquote token).map Text.uppercase := by
  cases token with
  | nil => rfl
  | cons first rest =>
      by_cases opens : first = '"'
      · subst opens
        rw [uppercase_sign (by decide)]
        by_cases closes : rest.getLast? = some '"'
        · obtain ⟨phrase, rfl⟩ := List.getLast?_eq_some_iff.mp closes
          rw [uppercase_append, uppercase_sign (by decide), unquote_eq_some_iff.mpr rfl]
          exact unquote_eq_some_iff.mpr rfl
        · rw [unquote, if_neg (mt (getLast?_uppercase_iff (by decide)).mp closes), unquote,
            if_neg closes]
          rfl
      · have noQuote : (first :: rest).head? ≠ some '"' := fun same => opens (Option.some.inj same)
        rw [unquote_eq_none noQuote,
          unquote_eq_none (mt (head?_uppercase_iff (by decide)).mp noQuote)]
        rfl

/-- The sign of a comparison can be told from the first two characters. -/
theorem comparisonSign_eq (token : Text) : comparisonSign token =
    if token.head? = some '>' then
      if token.tail.head? = some '=' then some (.atLeast, token.tail.tail)
      else some (.above, token.tail)
    else if token.head? = some '<' then
      if token.tail.head? = some '=' then some (.atMost, token.tail.tail)
      else some (.below, token.tail)
    else if token.head? = some '=' then some (.equal, token.tail)
    else none := by
  unfold comparisonSign
  split <;> simp_all [List.head?_eq_some_iff]

private theorem comparisonSign_uppercase (token : Text) : comparisonSign (Text.uppercase token) =
    (comparisonSign token).map fun found => (found.1, Text.uppercase found.2) := by
  have second {sign : Char} (isSign : sign ∈ syntaxSigns) (starts : token.head? = some sign)
      (orEqual alone : Comparison) :
      (if (Text.uppercase token).tail.head? = some '=' then
          some (orEqual, (Text.uppercase token).tail.tail)
        else some (alone, (Text.uppercase token).tail)) =
      (if token.tail.head? = some '=' then some (orEqual, token.tail.tail)
        else some (alone, token.tail)).map fun found => (found.1, Text.uppercase found.2) := by
    rw [tail_uppercase isSign starts]
    by_cases equal : token.tail.head? = some '='
    · rw [if_pos equal, if_pos ((head?_uppercase_iff (by decide)).mpr equal),
        tail_uppercase (by decide) equal]
      rfl
    · rw [if_neg equal, if_neg (mt (head?_uppercase_iff (by decide)).mp equal)]
      rfl
  rw [comparisonSign_eq, comparisonSign_eq]
  simp only [head?_uppercase_iff (show '>' ∈ syntaxSigns by decide),
    head?_uppercase_iff (show '<' ∈ syntaxSigns by decide),
    head?_uppercase_iff (show '=' ∈ syntaxSigns by decide)]
  split
  · next starts => exact second (by decide) starts .atLeast .above
  · split
    · next starts => exact second (by decide) starts .atMost .below
    · split
      · next starts =>
        rw [tail_uppercase (by decide) starts]
        rfl
      · rfl

/-! ## Numerals -/

section Numerals

variable {Result First Second : Type} {accept : Text → Option First}
  {other : Text → Option Second} {respell : First → Second}

/-- A numeral that goes on behind a digit with a separator and more digits. -/
def groupedNumeral (accept : Text → Option Result) : Text → Option (Text × Result)
  | [] => none
  | separator :: more =>
      if separator = '.' ∨ separator = ',' then
        (longestNumeral accept more).map fun found => (separator :: found.1, found.2)
      else none

/-- A numeral that ends behind a digit with a dot. -/
def dottedNumeral (accept : Text → Option Result) (rest : Text) : Option (Text × Result) :=
  if rest.head? = some '.' then (accept rest.tail).map fun result => (['.'], result) else none

/-- A numeral that begins with a digit goes on with the longest that is accepted: digits, a group, a
dot at the end, or nothing more. -/
theorem longestNumeral_cons (accept : Text → Option Result) (digit : Char) (rest : Text) :
    longestNumeral accept (digit :: rest) =
      if Text.isDigit digit then
        ((longestNumeral accept rest).or ((groupedNumeral accept rest).or
          ((dottedNumeral accept rest).or ((accept rest).map fun result => ([], result))))).map
            fun found => (digit :: found.1, found.2)
      else none := by
  cases rest with
  | nil => rfl
  | cons separator more =>
      by_cases isDot : separator = '.'
      · rw [isDot]
        rfl
      · have noDot : dottedNumeral accept (separator :: more) = none :=
          if_neg fun same => isDot (Option.some.inj same)
        simp [longestNumeral, groupedNumeral, noDot, isDot]

private theorem groupedNumeral_uppercase
    (behind : longestNumeral other (Text.uppercase rest.tail) =
      (longestNumeral accept rest.tail).map (Prod.map id respell)) :
    groupedNumeral other (Text.uppercase rest) =
      (groupedNumeral accept rest).map (Prod.map id respell) := by
  have keeps : Keeps (fun character => decide (character = '.' ∨ character = ',')) upperChar := by
    apply keeps_upperChar
    intro character separates
    rcases of_decide_eq_true separates with rfl | rfl
    · exact isSyntax_of_mem (by decide)
    · exact isSyntax_of_mem (by decide)
  cases rest with
  | nil => rfl
  | cons separator more =>
      by_cases separates : separator = '.' ∨ separator = ','
      · rw [uppercase_cons, keeps.passing separator (decide_eq_true separates),
          List.singleton_append, groupedNumeral, if_pos separates, groupedNumeral,
          if_pos separates]
        rw [List.tail_cons] at behind
        rw [behind, Option.map_map, Option.map_map]
        rfl
      · obtain ⟨first, others, split, fails⟩ := keeps.exists_cons (decide_eq_false separates)
        rw [uppercase_cons, split, List.cons_append, groupedNumeral,
          if_neg (of_decide_eq_false fails), groupedNumeral, if_neg separates]
        rfl

private theorem dottedNumeral_uppercase
    (same : ∀ text, other (Text.uppercase text) = (accept text).map respell) (rest : Text) :
    dottedNumeral other (Text.uppercase rest) =
      (dottedNumeral accept rest).map (Prod.map id respell) := by
  rw [dottedNumeral, dottedNumeral]
  by_cases dot : rest.head? = some '.'
  · rw [if_pos dot, if_pos ((head?_uppercase_iff (by decide)).mpr dot),
      tail_uppercase (by decide) dot, same, Option.map_map, Option.map_map]
    rfl
  · rw [if_neg dot, if_neg (mt (head?_uppercase_iff (by decide)).mp dot)]
    rfl

/-- The longest numeral stays, and what is behind it is in upper case. -/
theorem longestNumeral_uppercase
    (same : ∀ text, other (Text.uppercase text) = (accept text).map respell) (text : Text) :
    longestNumeral other (Text.uppercase text) =
      (longestNumeral accept text).map (Prod.map id respell) := by
  -- A group of digits goes on two characters behind its digit, so the tail is proved along.
  have both (text : Text) :
      longestNumeral other (Text.uppercase text) =
          (longestNumeral accept text).map (Prod.map id respell) ∧
        longestNumeral other (Text.uppercase text.tail) =
          (longestNumeral accept text.tail).map (Prod.map id respell) := by
    induction text with
    | nil => exact ⟨rfl, rfl⟩
    | cons digit rest ih =>
        refine ⟨?_, ih.1⟩
        cases isDigit : Text.isDigit digit with
        | true =>
            rw [uppercase_cons, keeps_isDigit.passing digit isDigit, List.singleton_append,
              longestNumeral_cons, longestNumeral_cons, if_pos isDigit, if_pos isDigit, ih.1,
              groupedNumeral_uppercase ih.2, dottedNumeral_uppercase same, same]
            simp only [Option.map_or, Option.map_map, Function.comp_def, Prod.map, id]
        | false =>
            obtain ⟨first, others, split, fails⟩ := keeps_isDigit.exists_cons isDigit
            rw [uppercase_cons, split, List.cons_append, longestNumeral_cons, longestNumeral_cons,
              fails, isDigit]
            rfl
  exact (both text).1

end Numerals

/-! ## Units -/

private theorem keeps_isUnitHead : Keeps (fun character => !isUnitHead character) upperChar := by
  apply keeps_upperChar
  intro character noHead
  have signs : ['<', '>', '=', '-'] ⊆ syntaxSigns := by decide
  rw [isUnitHead, Bool.not_eq_true', Bool.and_eq_false_iff, Bool.and_eq_false_iff,
    Bool.not_eq_false', Bool.not_eq_false', Bool.not_eq_false', List.contains_iff_mem] at noHead
  rcases noHead with (digit | blank) | sign
  · rw [isSyntax, digit, Bool.or_true, Bool.true_or]
  · rw [isSyntax, blank, Bool.true_or, Bool.true_or]
  · exact isSyntax_of_mem (signs sign)

/-- A unit begins with no white space. -/
theorem not_isBlank_of_isUnitHead {character : Char} (isHead : isUnitHead character = true) :
    isBlank character = false := by
  rw [isUnitHead, Bool.and_eq_true, Bool.and_eq_true, Bool.not_eq_true', Bool.not_eq_true']
    at isHead
  exact isHead.1.2

private theorem unitTail_uppercase (text : Text) :
    unitTail (Text.uppercase text) = (unitTail text).map (Option.map Text.uppercase) := by
  rw [unitTail, unitTail, dropWhile_isBlank_uppercase]
  cases text.dropWhile isBlank with
  | nil => rfl
  | cons head rest =>
      have sameHead := keeps_isUnitHead.head?_flatMap (head :: rest)
      have sameBlanks := keeps_isBlank.any_flatMap (head :: rest)
      change (Text.uppercase (head :: rest)).head?.any _ = _ at sameHead
      change (Text.uppercase (head :: rest)).any _ = _ at sameBlanks
      obtain ⟨first, others, split⟩ :=
        List.exists_cons_of_ne_nil (mt uppercase_eq_nil_iff.mp (List.cons_ne_nil head rest))
      rw [split, List.head?_cons, List.head?_cons, Option.any_some, Option.any_some,
        Bool.not_inj_iff] at sameHead
      rw [split, List.any_cons, List.any_cons] at sameBlanks
      rw [split]
      dsimp only
      rw [sameHead]
      cases isHead : isUnitHead head with
      | false => rfl
      | true =>
          rw [not_isBlank_of_isUnitHead isHead, not_isBlank_of_isUnitHead (sameHead.trans isHead),
            Bool.false_or, Bool.false_or] at sameBlanks
          rw [← List.not_any_eq_all_not, ← List.not_any_eq_all_not, sameBlanks, ← split]
          split <;> rfl

private theorem rangeTail_uppercase (text : Text) : rangeTail (Text.uppercase text) =
    (rangeTail text).map (Prod.map id (Option.map Text.uppercase)) := by
  have rangeTail_eq (text : Text) : rangeTail text =
      if (text.dropWhile isBlank).head? = some '-' then
        longestNumeral unitTail ((text.dropWhile isBlank).tail.dropWhile isBlank)
      else none := by
    unfold rangeTail
    split <;> simp_all [List.head?_eq_some_iff]
  rw [rangeTail_eq, rangeTail_eq, dropWhile_isBlank_uppercase]
  by_cases hyphen : (text.dropWhile isBlank).head? = some '-'
  · rw [if_pos hyphen, if_pos ((head?_uppercase_iff (by decide)).mpr hyphen),
      tail_uppercase (by decide) hyphen, dropWhile_isBlank_uppercase]
    exact longestNumeral_uppercase unitTail_uppercase _
  · rw [if_neg hyphen, if_neg (mt (head?_uppercase_iff (by decide)).mp hyphen)]
    rfl

/-! ## Comparisons and ranges -/

/-- A comparison in upper case is that comparison, with its unit in upper case. -/
theorem comparison?_uppercase (token : Text) : comparison? (Text.uppercase token) =
    (comparison? token).map (Prod.map id (Option.map Text.uppercase)) := by
  rw [comparison?, comparison?, comparisonSign_uppercase]
  cases comparisonSign token with
  | none => rfl
  | some found =>
      obtain ⟨comparison, operand⟩ := found
      simp only [Option.map_some, Option.bind_eq_bind, Option.bind_some]
      rw [dropWhile_isBlank_uppercase, longestNumeral_uppercase unitTail_uppercase]
      cases longestNumeral unitTail (operand.dropWhile isBlank) with
      | none => rfl
      | some found =>
          obtain ⟨numeral, unit⟩ := found
          simp only [Option.map_some, Option.bind_some, Prod.map, id]
          cases Numeral.valueOf? numeral <;> rfl

/-- A range in upper case is that range, with its unit in upper case. -/
theorem range?_uppercase (token : Text) : range? (Text.uppercase token) =
    (range? token).map (Prod.map id (Option.map Text.uppercase)) := by
  rw [range?, range?, longestNumeral_uppercase rangeTail_uppercase]
  cases longestNumeral rangeTail token with
  | none => rfl
  | some found =>
      obtain ⟨first, second, unit⟩ := found
      simp only [Option.map_some, Option.bind_eq_bind, Option.bind_some, Prod.map, id]
      cases Numeral.valueOf? first with
      | none => rfl
      | some one => cases Numeral.valueOf? second <;> rfl

/-! ## Terms -/

/-- A unit is known in upper case as well. -/
theorem resolve_uppercase (units : UnitTable) (spelling : Text) :
    units.resolve (Text.uppercase spelling) = units.resolve spelling := by
  rw [UnitTable.resolve, UnitTable.resolve, normalize_uppercase]

private theorem ofWord_uppercase (spelling text : Text) :
    ofWord (Text.uppercase spelling) (Text.uppercase text) =
      (ofWord spelling text).map uppercase := by
  rw [ofWord, ofWord, normalize_uppercase]
  split <;> rfl

/-- A token in upper case stands for the term of the token. -/
theorem classify_uppercase (units : UnitTable) (token : Text) :
    classify units (Text.uppercase token) = (classify units token).map uppercase := by
  rw [classify, classify, trimmed_uppercase, unquote_uppercase]
  cases unquote (trimmed token) with
  | some phrase => exact ofWord_uppercase token phrase
  | none =>
      rw [Option.map_none]
      rw [comparison?_uppercase, range?_uppercase, ← Option.map_or]
      cases (comparison? (trimmed token)).or (range? (trimmed token)) with
      | none => exact ofWord_uppercase token (trimmed token)
      | some reading =>
          obtain ⟨test, unit⟩ := reading
          have sameUnit :
              (unit.map Text.uppercase).bind units.resolve = unit.bind units.resolve := by
            cases unit with
            | none => rfl
            | some spelling => exact resolve_uppercase units spelling
          change some (Term.mk (Text.uppercase token) test
            ((unit.map Text.uppercase).bind units.resolve) false) = _
          rw [sameUnit]
          rfl

end TableSearch.Term
