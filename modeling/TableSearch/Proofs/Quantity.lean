import Mathlib.Algebra.BigOperators.Group.List.Basic
import TableSearch.Proofs.Denotation
import TableSearch.Proofs.Text.FoldSigns

/-!
# Numbers in a cell

The numbers of a text are the successive longest runs of digit groups, one after the other from the
left. A cell is read for numbers together with the units behind them, and a unit may hold digits:
these are read as no number.
-/

namespace TableSearch

namespace Quantity

open Text

/-- A text without digits. -/
def Digitless (text : Text) : Prop :=
  ∀ character ∈ text, isDigit character = false

/-- Groups of digits with a dot or a comma between each two of them. -/
inductive IsGroups : Text → Prop where
  | one {digit : Char} : isDigit digit = true → IsGroups [digit]
  | digit {digit : Char} {rest : Text} : isDigit digit = true → IsGroups rest →
      IsGroups (digit :: rest)
  | group {digit separator : Char} {rest : Text} : isDigit digit = true →
      isSeparator separator = true → IsGroups rest → IsGroups (digit :: separator :: rest)

/-- A text of digits and separators. -/
def IsNumeric (text : Text) : Prop :=
  ∀ character ∈ text, isDigit character = true ∨ isSeparator character = true

/-- The successive leftmost-longest matches of a pattern in a text. -/
inductive SuccessiveMatches (pattern : Text → Prop) : Text → List Text → Prop where
  | none {text : Text} :
      (∀ before found after, pattern found → text ≠ before ++ (found ++ after)) →
        SuccessiveMatches pattern text []
  | next {skipped found rest : Text} {others : List Text} : pattern found →
      (∀ before here after other, skipped = before ++ here :: after → pattern other →
        ¬other <+: here :: (after ++ (found ++ rest))) →
      (∀ longer, pattern longer → longer <+: found ++ rest → longer.length ≤ found.length) →
      SuccessiveMatches pattern rest others →
        SuccessiveMatches pattern (skipped ++ (found ++ rest)) (found :: others)

/-- The numbers of a text, whatever stands behind them. -/
def numerals : Text → List Text
  | [] => []
  | character :: rest =>
      if isDigit character then
        (character :: (spanNumeral rest).1) :: numerals (spanNumeral rest).2
      else numerals rest
termination_by text => text.length
decreasing_by
  · exact Nat.lt_succ_of_le (spanNumeral_length rest)
  · exact Nat.lt_succ_self _

/-- Whether a number before a text goes on into it. -/
def goesOn : Text → Bool
  | [] => false
  | character :: rest => isDigit character || (isSeparator character && rest.head?.any isDigit)

variable {text numeral groups skipped rest : Text} {character : Char}

/-! ## Digit groups -/

/-- A dot or a comma is no digit. -/
theorem not_isDigit_of_isSeparator (separates : isSeparator character = true) :
    isDigit character = false := by
  rw [isSeparator, Bool.or_eq_true, decide_eq_true_eq, decide_eq_true_eq] at separates
  rcases separates with rfl | rfl <;> decide

/-- White space is no digit. -/
theorem not_isDigit_of_isBlank (blank : isBlank character = true) :
    isDigit character = false := by
  cases digit : isDigit character with
  | false => rfl
  | true =>
      rw [(isNormal_of_isDigit digit).not_isBlank] at blank
      cases blank

/-- White space separates no digit groups. -/
theorem not_isSeparator_of_isBlank (blank : isBlank character = true) :
    isSeparator character = false := by
  cases separates : isSeparator character with
  | false => rfl
  | true =>
      rw [isSeparator, Bool.or_eq_true, decide_eq_true_eq, decide_eq_true_eq] at separates
      rcases separates with rfl | rfl
      · exact absurd blank (by decide)
      · exact absurd blank (by decide)

/-- Digit groups begin with a digit. -/
theorem IsGroups.exists_cons (isGroups : IsGroups groups) :
    ∃ digit rest, groups = digit :: rest ∧ isDigit digit = true := by
  cases isGroups with
  | one isDigit => exact ⟨_, _, rfl, isDigit⟩
  | digit isDigit => exact ⟨_, _, rfl, isDigit⟩
  | group isDigit => exact ⟨_, _, rfl, isDigit⟩

/-- Digit groups are digits and separators. -/
theorem IsGroups.isNumeric (isGroups : IsGroups groups) : IsNumeric groups := by
  induction isGroups with
  | one isDigit => exact List.forall_mem_singleton.mpr (.inl isDigit)
  | digit isDigit _ ih => exact List.forall_mem_cons.mpr ⟨.inl isDigit, ih⟩
  | group isDigit separates _ ih =>
      exact List.forall_mem_cons.mpr ⟨.inl isDigit, List.forall_mem_cons.mpr ⟨.inr separates, ih⟩⟩

/-- No white space stands among digits and separators. -/
theorem IsNumeric.isBlank_eq_false (isNumeric : IsNumeric text) :
    ∀ character ∈ text, isBlank character = false := by
  intro character member
  rcases isNumeric character member with isDigit | separates
  · exact (isNormal_of_isDigit isDigit).not_isBlank
  · cases blank : isBlank character with
    | false => rfl
    | true =>
        rw [not_isSeparator_of_isBlank blank] at separates
        cases separates

/-- Digits and separators are their own folding. -/
theorem IsNumeric.fold_eq (isNumeric : IsNumeric text) : fold text = text := by
  apply fold_of_forall
  intro character member
  rcases isNumeric character member with isDigit | separates
  · exact (isNormal_of_isDigit isDigit).folded
  · rw [isSeparator, Bool.or_eq_true, decide_eq_true_eq, decide_eq_true_eq] at separates
    rcases separates with rfl | rfl
    · exact foldChar_of_mem (by decide)
    · exact foldChar_of_mem (by decide)

/-- Digit groups end with a digit. -/
theorem IsGroups.getLast?_ne (isGroups : IsGroups groups) : groups.getLast? ≠ some '.' := by
  induction isGroups with
  | one isDigit =>
      intro dot
      cases Option.some.inj dot
      cases isDigit
  | digit _ isGroups ih =>
      obtain ⟨next, more, rfl, -⟩ := isGroups.exists_cons
      rwa [List.getLast?_cons_cons]
  | group _ _ isGroups ih =>
      obtain ⟨next, more, rfl, -⟩ := isGroups.exists_cons
      rwa [List.getLast?_cons_cons, List.getLast?_cons_cons]

private theorem spanNumeral_eq (text : Text) : spanNumeral text =
    if goesOn text then (text.take 1 ++ (spanNumeral text.tail).1, (spanNumeral text.tail).2)
    else ([], text) := by
  cases text with
  | nil => rfl
  | cons character rest => rfl

/-- Digit groups are read to their end, where no further group follows. -/
theorem spanNumeral_append_of_isGroups (isGroups : IsGroups numeral) (stops : goesOn rest = false) :
    spanNumeral (numeral ++ rest) = (numeral, rest) := by
  have stopsHere : spanNumeral rest = ([], rest) := by
    rw [spanNumeral_eq, stops]
    rfl
  induction isGroups with
  | one isDigit =>
      rw [List.singleton_append, spanNumeral, isDigit, Bool.true_or, stopsHere]
      rfl
  | digit isDigit _ ih =>
      rw [List.cons_append, spanNumeral, isDigit, Bool.true_or, ih]
      rfl
  | group isDigit separates groups ih =>
      obtain ⟨next, more, rfl, isNext⟩ := groups.exists_cons
      rw [List.cons_append, List.cons_append, spanNumeral, isDigit, Bool.true_or, spanNumeral,
        separates, List.cons_append, List.head?_cons, Option.any_some, isNext, ← List.cons_append,
        ih]
      simp

/-- Digit groups that a text begins with are read, perhaps with more behind them. -/
theorem IsGroups.isPrefix_spanNumeral (isGroups : IsGroups groups) (rest : Text) :
    groups <+: (spanNumeral (groups ++ rest)).1 := by
  induction isGroups with
  | one isDigit =>
      rw [List.singleton_append, spanNumeral, isDigit, Bool.true_or]
      exact List.cons_prefix_cons.mpr ⟨rfl, List.nil_prefix⟩
  | digit isDigit _ ih =>
      rw [List.cons_append, spanNumeral, isDigit, Bool.true_or]
      exact List.cons_prefix_cons.mpr ⟨rfl, ih⟩
  | group isDigit separates groups ih =>
      obtain ⟨next, more, rfl, isNext⟩ := groups.exists_cons
      rw [List.cons_append, List.cons_append, spanNumeral, isDigit, Bool.true_or, spanNumeral,
        separates, List.cons_append, List.head?_cons, Option.any_some, isNext]
      rw [List.cons_append] at ih
      simpa using ih

/-- No longer digit groups begin where digit groups end that go no further. -/
theorem IsGroups.length_le {longer : Text} (isGroups : IsGroups numeral)
    (stops : goesOn rest = false) (isLonger : IsGroups longer)
    (begins : longer <+: numeral ++ rest) : longer.length ≤ numeral.length := by
  obtain ⟨behind, split⟩ := begins
  have within := isLonger.isPrefix_spanNumeral behind
  rw [split, spanNumeral_append_of_isGroups isGroups stops] at within
  exact within.length_le

/-- A text that begins with a digit begins with digit groups that go no further. -/
theorem exists_groups {first : Char} (isFirst : isDigit first = true) (more : Text) :
    ∃ groups behind, first :: more = groups ++ behind ∧ IsGroups groups ∧
      goesOn behind = false := by
  cases further : goesOn more with
  | false => exact ⟨[first], more, rfl, .one isFirst, further⟩
  | true =>
      match more with
      | second :: others =>
          by_cases isSecond : isDigit second = true
          · obtain ⟨groups, behind, split, isGroups, stops⟩ := exists_groups isSecond others
            exact ⟨first :: groups, behind, congrArg (first :: ·) split, .digit isFirst isGroups,
              stops⟩
          · rw [goesOn, Bool.eq_false_iff.mpr isSecond, Bool.false_or, Bool.and_eq_true] at further
            obtain ⟨separates, isThird⟩ := further
            match others with
            | third :: last =>
                obtain ⟨groups, behind, split, isGroups, stops⟩ := exists_groups isThird last
                exact ⟨first :: second :: groups, behind, by rw [split]; rfl,
                  .group isFirst separates isGroups, stops⟩

/-- A text has no digit, or it has a first number. -/
theorem exists_first_numeral (text : Text) : Digitless text ∨
    ∃ skipped numeral rest, text = skipped ++ (numeral ++ rest) ∧ Digitless skipped ∧
      IsGroups numeral ∧ goesOn rest = false := by
  induction text with
  | nil => exact .inl fun _ absent => absurd absent List.not_mem_nil
  | cons first more ih =>
      by_cases isFirst : isDigit first = true
      · obtain ⟨numeral, rest, split, isGroups, stops⟩ := exists_groups isFirst more
        exact .inr ⟨[], numeral, rest, split, fun _ absent => absurd absent List.not_mem_nil,
          isGroups, stops⟩
      · have noDigit : isDigit first = false := Bool.eq_false_iff.mpr isFirst
        rcases ih with digitless | ⟨skipped, numeral, rest, split, digitless, isGroups, stops⟩
        · exact .inl (List.forall_mem_cons.mpr ⟨noDigit, digitless⟩)
        · exact .inr ⟨first :: skipped, numeral, rest, congrArg (first :: ·) split,
            List.forall_mem_cons.mpr ⟨noDigit, digitless⟩, isGroups, stops⟩

/-- A text is read by its first number; what is behind it comes first in the induction. -/
@[elab_as_elim]
theorem numeralInduction {motive : Text → Prop}
    (digitless : ∀ text, Digitless text → motive text)
    (first : ∀ skipped numeral rest, Digitless skipped → IsGroups numeral → goesOn rest = false →
      (∀ behind : Text, behind.length ≤ rest.length → motive behind) →
        motive (skipped ++ (numeral ++ rest))) (text : Text) : motive text := by
  induction length : text.length using Nat.strongRecOn generalizing text with
  | ind size ih =>
      obtain none | ⟨skipped, numeral, rest, rfl, none, isGroups, stops⟩ :=
        exists_first_numeral text
      · exact digitless text none
      · refine first skipped numeral rest none isGroups stops fun behind shorter => ?_
        obtain ⟨digit, more, rfl, -⟩ := isGroups.exists_cons
        simp only [List.length_append, List.length_cons] at length
        exact ih behind.length (by omega) behind rfl

/-- Digit groups go on behind digit groups, with a separator between them or without. -/
theorem IsGroups.append {others : Text} (isGroups : IsGroups groups) (areOthers : IsGroups others) :
    IsGroups (groups ++ others) ∧
      ∀ separator, isSeparator separator = true → IsGroups (groups ++ separator :: others) := by
  induction isGroups with
  | one isDigit =>
      exact ⟨.digit isDigit areOthers, fun _ separates => .group isDigit separates areOthers⟩
  | digit isDigit _ ih =>
      exact ⟨.digit isDigit ih.1, fun _ separates => .digit isDigit (ih.2 _ separates)⟩
  | group isDigit between _ ih =>
      exact ⟨.group isDigit between ih.1,
        fun _ separates => .group isDigit between (ih.2 _ separates)⟩

/-- Digit groups that are the longest go no further. -/
theorem IsGroups.stops_of_longest (isGroups : IsGroups numeral)
    (longest : ∀ longer, IsGroups longer → longer <+: numeral ++ rest →
      longer.length ≤ numeral.length) : goesOn rest = false := by
  have noneBehind {more : Text} (nonempty : more ≠ []) (begins : more <+: rest)
      (areGroups : IsGroups (numeral ++ more)) : False := by
    have tooLong := longest _ areGroups ((List.prefix_append_right_inj numeral).mpr begins)
    rw [List.length_append] at tooLong
    exact nonempty (List.length_eq_zero_iff.mp (by omega))
  match rest with
  | [] => rfl
  | next :: more =>
      rw [goesOn, Bool.or_eq_false_iff, Bool.and_eq_false_imp]
      refine ⟨Bool.eq_false_iff.mpr fun isNext => ?_, fun separates => ?_⟩
      · exact noneBehind (List.cons_ne_nil next []) ⟨more, rfl⟩ (isGroups.append (.one isNext)).1
      · match more with
        | [] => rfl
        | second :: others =>
            exact Bool.eq_false_iff.mpr fun isSecond => noneBehind (List.cons_ne_nil next [second])
              ⟨others, rfl⟩ ((isGroups.append (.one isSecond)).2 next separates)

/-! ## Numbers alone -/

/-- A text without digits has no numbers. -/
theorem numerals_of_digitless (digitless : Digitless text) : numerals text = [] := by
  induction text with
  | nil => rw [numerals]
  | cons first more ih =>
      obtain ⟨noDigit, behind⟩ := List.forall_mem_cons.mp digitless
      rw [numerals, noDigit, if_neg Bool.false_ne_true, ih behind]

/-- What has no digits can be skipped before a number. -/
theorem numerals_append_of_digitless (digitless : Digitless skipped) (rest : Text) :
    numerals (skipped ++ rest) = numerals rest := by
  induction skipped with
  | nil => rfl
  | cons first more ih =>
      obtain ⟨noDigit, behind⟩ := List.forall_mem_cons.mp digitless
      rw [List.cons_append, numerals, noDigit, if_neg Bool.false_ne_true, ih behind]

/-- Digit groups that do not go on are one number, and the next is looked for behind them. -/
theorem numerals_of_isGroups (isGroups : IsGroups numeral) (stops : goesOn rest = false) :
    numerals (numeral ++ rest) = numeral :: numerals rest := by
  have whole := spanNumeral_append_of_isGroups isGroups stops
  obtain ⟨digit, more, rfl, isDigit⟩ := isGroups.exists_cons
  rw [List.cons_append, spanNumeral, isDigit, Bool.true_or, if_pos rfl] at whole
  obtain ⟨whole, behind⟩ := Prod.mk.inj whole
  rw [List.cons_append, numerals, isDigit, if_pos rfl, whole, behind]

/-- Where digit groups match nowhere, there is no digit. -/
theorem digitless_of_noMatch
    (noMatch : ∀ before here after, text = before ++ here :: after → ¬isDigit here = true) :
    Digitless text := by
  intro character member
  obtain ⟨before, after, split⟩ := List.append_of_mem member
  exact Bool.eq_false_iff.mpr (noMatch before character after split)

/-- The numbers of a text are its successive leftmost-longest runs of digit groups. -/
theorem successiveMatches_iff {found : List Text} :
    SuccessiveMatches IsGroups text found ↔ found = numerals text := by
  constructor
  · intro isFound
    induction isFound with
    | none noMatch =>
        exact (numerals_of_digitless (digitless_of_noMatch fun before here after split isDigit =>
          noMatch before [here] after (.one isDigit) split)).symm
    | next isGroups leftmost longest _ ih =>
        have digitless := digitless_of_noMatch fun before here after split isDigit =>
          leftmost before here after [here] split (.one isDigit) ⟨_, rfl⟩
        rw [numerals_append_of_digitless digitless,
          numerals_of_isGroups isGroups (isGroups.stops_of_longest longest), ih]
  · rintro rfl
    induction text using numeralInduction with
    | digitless text digitless =>
        rw [numerals_of_digitless digitless]
        refine .none fun before found after isGroups split => ?_
        obtain ⟨digit, more, rfl, isDigit⟩ := isGroups.exists_cons
        have member : digit ∈ text := by simp [split]
        rw [digitless digit member] at isDigit
        cases isDigit
    | first skipped numeral rest digitless isGroups stops ih =>
        rw [numerals_append_of_digitless digitless, numerals_of_isGroups isGroups stops]
        refine .next isGroups ?_ (fun _ => isGroups.length_le stops) (ih rest (Nat.le_refl _))
        rintro before here after other rfl areGroups begins
        obtain ⟨digit, more, rfl, isDigit⟩ := areGroups.exists_cons
        obtain ⟨rfl, -⟩ := List.cons_prefix_cons.mp begins
        rw [digitless digit (by simp)] at isDigit
        cases isDigit

/-! ## Numbers with units -/

/-- A unit and what follows it are the text read. -/
theorem spanUnit_append (text : Text) : (spanUnit text).1.getD [] ++ (spanUnit text).2 = text := by
  cases text with
  | nil => rfl
  | cons first rest =>
      rw [spanUnit]
      split
      · exact congrArg (first :: ·) List.takeWhile_append_dropWhile
      · rfl

/-- A text without digits has no quantities. -/
theorem all_of_digitless (digitless : Digitless text) : all text = [] := by
  induction text with
  | nil => rw [all]
  | cons first more ih =>
      obtain ⟨noDigit, behind⟩ := List.forall_mem_cons.mp digitless
      rw [all, noDigit, if_neg Bool.false_ne_true, ih behind]

/-- What has no digits can be skipped before a quantity. -/
theorem all_append_of_digitless (digitless : Digitless skipped) (rest : Text) :
    all (skipped ++ rest) = all rest := by
  induction skipped with
  | nil => rfl
  | cons first more ih =>
      obtain ⟨noDigit, behind⟩ := List.forall_mem_cons.mp digitless
      rw [List.cons_append, all, noDigit, if_neg Bool.false_ne_true, ih behind]

/-- A number is read with the unit behind it, and reading goes on behind the unit. -/
theorem all_of_isGroups (isGroups : IsGroups numeral) (stops : goesOn rest = false) :
    all (numeral ++ rest) = ⟨numeral, (spanUnit (rest.dropWhile isBlank)).1⟩ ::
      all (spanUnit (rest.dropWhile isBlank)).2 := by
  have whole := spanNumeral_append_of_isGroups isGroups stops
  obtain ⟨digit, more, rfl, isDigit⟩ := isGroups.exists_cons
  rw [List.cons_append, spanNumeral, isDigit, Bool.true_or, if_pos rfl] at whole
  obtain ⟨whole, behind⟩ := Prod.mk.inj whole
  rw [List.cons_append, all, isDigit, if_pos rfl]
  simp only [whole, behind]

/-- Behind a number stand white space, its unit, and the text where reading goes on. -/
theorem exists_all_eq_cons (isGroups : IsGroups numeral) (stops : goesOn rest = false) :
    ∃ blanks unit behind, (∀ blank ∈ blanks, isBlank blank = true) ∧
      rest = blanks ++ (Option.getD unit [] ++ behind) ∧
        all (numeral ++ rest) = ⟨numeral, unit⟩ :: all behind := by
  refine ⟨rest.takeWhile isBlank, (spanUnit (rest.dropWhile isBlank)).1,
    (spanUnit (rest.dropWhile isBlank)).2, List.all_eq_true.mp List.all_takeWhile, ?_,
    all_of_isGroups isGroups stops⟩
  rw [spanUnit_append, List.takeWhile_append_dropWhile]

/-- The digits of a text. -/
def digits (text : Text) : Text :=
  text.filter isDigit

theorem digits_eq_nil_iff : digits text = [] ↔ Digitless text := by
  simp only [digits, List.filter_eq_nil_iff, Digitless, Bool.not_eq_true]

theorem digits_append (first second : Text) :
    digits (first ++ second) = digits first ++ digits second := by
  rw [digits, List.filter_append, ← digits, ← digits]

/-- White space holds no digits. -/
theorem digitless_of_blanks {blanks : Text} (white : ∀ blank ∈ blanks, isBlank blank = true) :
    Digitless blanks :=
  fun blank member => not_isDigit_of_isBlank (white blank member)

/-- Every digit of a text stands in one of its numbers. -/
theorem flatMap_digits_numerals (text : Text) : (numerals text).flatMap digits = digits text := by
  induction text using numeralInduction with
  | digitless text digitless =>
      rw [numerals_of_digitless digitless, digits_eq_nil_iff.mpr digitless]
      rfl
  | first skipped numeral rest digitless isGroups stops ih =>
      rw [numerals_append_of_digitless digitless, numerals_of_isGroups isGroups stops,
        List.flatMap_cons, ih rest (Nat.le_refl _), digits_append, digits_append,
        digits_eq_nil_iff.mpr digitless, List.nil_append]

/-- Every digit of a text stands in one of the numbers read or in the unit behind one. -/
theorem flatMap_digits_all (text : Text) :
    ((all text).flatMap fun quantity =>
      digits quantity.numeral ++ digits (quantity.unit.getD [])) = digits text := by
  induction text using numeralInduction with
  | digitless text digitless =>
      rw [all_of_digitless digitless, digits_eq_nil_iff.mpr digitless]
      rfl
  | first skipped numeral rest digitless isGroups stops ih =>
      obtain ⟨blanks, unit, behind, white, rfl, read⟩ := exists_all_eq_cons isGroups stops
      have shorter : behind.length ≤ (blanks ++ (unit.getD [] ++ behind)).length := by
        simp only [List.length_append]
        omega
      rw [all_append_of_digitless digitless, read, List.flatMap_cons, ih behind shorter]
      simp only [digits_append, digits_eq_nil_iff.mpr digitless,
        digits_eq_nil_iff.mpr (digitless_of_blanks white), List.nil_append, List.append_assoc]

/-- No number of a text is read with a unit that holds digits. -/
def UnitsDigitless (text : Text) : Prop :=
  ∀ quantity ∈ all text, Digitless (quantity.unit.getD [])

/-- The numbers read are the numbers of the text exactly where no unit holds digits. -/
theorem map_numeral_all_eq_iff (text : Text) :
    (all text).map Quantity.numeral = numerals text ↔ UnitsDigitless text := by
  constructor
  · intro same quantity member
    -- The numbers hold all digits of the text, so none is left for the units.
    have none :
        ((all text).map fun quantity => (digits (quantity.unit.getD [])).length).sum = 0 := by
      have withUnits := congrArg List.length (flatMap_digits_all text)
      have alone := congrArg List.length (flatMap_digits_numerals text)
      rw [← same, List.length_flatMap, List.map_map] at alone
      simp only [List.length_flatMap, List.length_append, List.sum_map_add] at withUnits
      simp only [Function.comp_def] at alone
      omega
    rw [List.sum_eq_zero_iff_forall_eq_nat] at none
    exact digits_eq_nil_iff.mp (List.length_eq_zero_iff.mp
      (none _ (List.mem_map.mpr ⟨quantity, member, rfl⟩)))
  · intro digitless
    induction text using numeralInduction with
    | digitless text none => rw [all_of_digitless none, numerals_of_digitless none, List.map_nil]
    | first skipped numeral rest none isGroups stops ih =>
        obtain ⟨blanks, unit, behind, white, split, read⟩ := exists_all_eq_cons isGroups stops
        have shorter : behind.length ≤ rest.length := by
          simp only [split, List.length_append]
          omega
        rw [UnitsDigitless, all_append_of_digitless none, read, List.forall_mem_cons] at digitless
        rw [all_append_of_digitless none, read, List.map_cons, numerals_append_of_digitless none,
          numerals_of_isGroups isGroups stops, ih behind shorter digitless.2, split,
          numerals_append_of_digitless (digitless_of_blanks white),
          numerals_append_of_digitless digitless.1]

/-- A unit takes the digit that stands in it, and reading goes on inside the number that begins
there: five is read, which is no number of the text. -/
example : (all (ofString "10 M2.5")).map Quantity.numeral = [ofString "10", ofString "5"] ∧
    numerals (ofString "10 M2.5") = [ofString "10", ofString "2.5"] := by
  decide +kernel

end Quantity

/-- A term accepts the number that a text denotes. -/
def Term.AcceptsNumeral (term : Term) (numeral : Text) : Prop :=
  ∃ value, Numeral.valueOf? numeral = some value ∧ term.accepts value = true

namespace Target

open Quantity

variable {target : Target} {term : Term} {index : Nat}

/-- A numeric term is true of a row where it accepts a quantity in some cell, or where it accepts
none if it is negated. -/
theorem contains_termRows_iff (numeric : term.isNumeric = true) :
    (target.termRows term).contains index = true ↔ index < target.table.height ∧
      (target.SomeCell index (fun cell =>
        ∃ quantity ∈ Quantity.all cell.folded, target.quantityMatches term quantity = true) ↔
          term.negated = false) := by
  have passes : target.CellPasses term = fun cell =>
      ∃ quantity ∈ Quantity.all cell.folded, target.quantityMatches term quantity = true := by
    unfold CellPasses
    unfold Term.isNumeric at numeric
    cases test : term.test with
    | word word =>
        rw [test] at numeric
        cases numeric
    | compare => rfl
    | range => rfl
  rw [termRows_eq, rowsWhere, Selection.contains_ofTest_iff, Table.height, ← passes, ← TermTrue]
  by_cases inside : index < target.table.rows.length
  · have isRow := List.getElem?_eq_getElem inside
    simp only [isRow, Option.some.injEq, exists_eq_left', termHolds_iff isRow, inside, true_and]
  · simp [inside]

/-- A quantity matches a term where the term accepts its number and its unit. -/
theorem quantityMatches_iff (quantity : Quantity) :
    target.quantityMatches term quantity = true ↔
      term.AcceptsNumeral quantity.numeral ∧ target.unitMatches term quantity.unit = true := by
  rw [quantityMatches, Term.AcceptsNumeral]
  cases Numeral.valueOf? quantity.numeral with
  | none => simp
  | some value => simp

/-- A term without a unit looks at the number alone. -/
theorem quantityMatches_of_unitless (unitless : term.unit = .none) (quantity : Quantity) :
    target.quantityMatches term quantity = true ↔ term.AcceptsNumeral quantity.numeral := by
  simp [quantityMatches_iff, unitMatches, unitless]

/-- **Which numbers of a cell are tried.** The numbers of a text are its successive leftmost-longest
runs of digit groups, and a cell is read for just these where no unit behind one of them holds
digits. A numeric term without a unit selects the rows with a cell where it accepts a number read,
and so, where no unit holds digits, those where it accepts a number at all. -/
theorem termRows_of_unitless (target : Target) (index : Nat) {term : Term}
    (numeric : term.isNumeric = true) (unitless : term.unit = .none) :
    (∀ text found, SuccessiveMatches IsGroups text found ↔ found = numerals text) ∧
      (∀ text, (Quantity.all text).map Quantity.numeral = numerals text ↔ UnitsDigitless text) ∧
      ((target.termRows term).contains index = true ↔ index < target.table.height ∧
        (target.SomeCell index (fun cell =>
          ∃ quantity ∈ Quantity.all cell.folded, term.AcceptsNumeral quantity.numeral) ↔
            term.negated = false)) ∧
      ((∀ column ∈ target.columns, ∀ cell, target.table.cell? index column = some cell →
          UnitsDigitless cell.folded) →
        ((target.termRows term).contains index = true ↔ index < target.table.height ∧
          (target.SomeCell index (fun cell => ∃ numeral ∈ numerals cell.folded,
            term.AcceptsNumeral numeral) ↔ term.negated = false))) := by
  have read : (target.termRows term).contains index = true ↔ index < target.table.height ∧
      (target.SomeCell index (fun cell =>
        ∃ quantity ∈ Quantity.all cell.folded, term.AcceptsNumeral quantity.numeral) ↔
          term.negated = false) := by
    rw [contains_termRows_iff numeric]
    simp only [quantityMatches_of_unitless unitless]
  refine ⟨fun _ _ => successiveMatches_iff, map_numeral_all_eq_iff, read, fun digitless => ?_⟩
  have same : target.SomeCell index (fun cell =>
        ∃ quantity ∈ Quantity.all cell.folded, term.AcceptsNumeral quantity.numeral) ↔
      target.SomeCell index fun cell =>
        ∃ numeral ∈ numerals cell.folded, term.AcceptsNumeral numeral := by
    refine exists_congr fun column => and_congr_right fun looked =>
      exists_congr fun cell => and_congr_right fun isCell => ?_
    dsimp only
    rw [← (map_numeral_all_eq_iff _).mpr (digitless column looked cell isCell)]
    simp only [List.mem_map, exists_exists_and_eq_and]
  rw [read, same]

/-- Twenty stands alone in the second of two cells and is read there; in the first it belongs to
what is read as a unit behind ten. -/
theorem termRows_of_unitless_sample :
    let table := Table.ofTexts [Text.ofString "stock"]
      (["10x20", "entre 5 y 20 m"].map fun text => [some (Text.ofString text)])
    let target : Target := ⟨table, [0], .empty⟩
    let term : Term := ⟨[], .compare .equal 20, .none, false⟩
    let tried := fun cell : Cell =>
      ∃ quantity ∈ Quantity.all cell.folded, term.AcceptsNumeral quantity.numeral
    (term.isNumeric = true ∧ term.unit = .none) ∧
      (¬target.SomeCell 0 tried ∧ target.SomeCell 1 tried) ∧
      SuccessiveMatches IsGroups (Text.ofString "10X20") [['1', '0'], ['2', '0']] ∧
      ¬UnitsDigitless (Text.ofString "10X20") := by
  intro table target term tried
  have numeric : term.isNumeric = true := rfl
  obtain ⟨-, -, first, -⟩ := termRows_of_unitless target 0 numeric rfl
  obtain ⟨alone, units, second, -⟩ := termRows_of_unitless target 1 numeric rfl
  have selected : (target.termRows term).bits = [false, true] := by decide +kernel
  refine ⟨⟨rfl, rfl⟩, ⟨fun isTried => ?_, ?_⟩, ?_, fun digitless => ?_⟩
  · have contains := first.mpr ⟨by decide, iff_of_true isTried rfl⟩
    rw [Selection.contains, selected] at contains
    cases contains
  · have contains : (target.termRows term).contains 1 = true := by
      rw [Selection.contains, selected]
      rfl
    exact (second.mp contains).2.mpr rfl
  · exact (alone _ _).mpr (by decide +kernel)
  · have same := (units _).mpr digitless
    revert same
    decide +kernel

end Target

end TableSearch
