import Mathlib.Data.List.DropRight
import Mathlib.Data.Rat.Cast.Order
import Mathlib.Tactic.FieldSimp
import Mathlib.Tactic.Ring
import TableSearch.Numeral
import TableSearch.Proofs.Text.Words

/-!
# Which texts are numerals, and of which numbers

Without a comma, a numeral is read by the group of digits behind its last dot, after the dots at its
end are dropped; all other dots are passed over. Main statement: a text is a numeral exactly where
it is digits and dots with a digit among them, perhaps with a comma and digits behind them, and the
number that each of these forms denotes.
-/

namespace TableSearch

open Text

namespace Text

variable {text first second : Text}

/-- A decimal is a text of digits, at least one. -/
theorem isDecimal_iff :
    isDecimal text = true ↔ text ≠ [] ∧ ∀ character ∈ text, character.isDigit = true := by
  simp [isDecimal]

/-- The digits before others weigh as much as there are others behind them. -/
theorem decimalValue_append (first second : Text) :
    decimalValue (first ++ second) =
      decimalValue first * 10 ^ second.length + decimalValue second := by
  have fromValue : ∀ value : Nat,
      second.foldl (fun value digit => 10 * value + (digit.toNat - '0'.toNat)) value =
        value * 10 ^ second.length + decimalValue second := by
    induction second with
    | nil => simp [decimalValue]
    | cons digit rest ih =>
        intro value
        rw [decimalValue, List.foldl_cons, List.foldl_cons, ih, ih, List.length_cons]
        ring
  exact List.foldl_append.trans (fromValue _)

end Text

namespace Numeral

variable {text integer fraction front last : Text}

/-! ## Numerals as they are written -/

/-- Digits and dots, with a digit among them. -/
structure IsGrouped (text : Text) : Prop where
  signs : ∀ character ∈ text, character.isDigit = true ∨ character = '.'
  hasDigit : ∃ digit ∈ text, digit.isDigit = true

/-- A numeral as it is written: digits and dots, then perhaps a comma with digits behind it. -/
def IsSpelling (text : Text) : Prop :=
  ∃ integer rest, text = integer ++ rest ∧ IsGrouped integer ∧
    (rest = [] ∨ ∃ fraction, rest = ',' :: fraction ∧ isDecimal fraction = true)

/-- The number that a numeral stands for, before it is rounded. -/
def exact (numeral : Numeral) : ℚ :=
  decimalValue numeral.whole + decimalValue numeral.fraction / 10 ^ numeral.fraction.length

private theorem exact_eq (numeral : Numeral) :
    numeral.exact = decimalValue (numeral.whole ++ numeral.fraction) /
      10 ^ numeral.fraction.length := by
  rw [exact, decimalValue_append]
  push_cast
  field_simp

/-- Apart from its dots, a text of digits and dots is digits. -/
theorem isGrouped_iff : IsGrouped text ↔ isDecimal (text.filter (· ≠ '.')) = true := by
  rw [isDecimal_iff]
  constructor
  · rintro ⟨signs, digit, inside, isDigit⟩
    have noDot : digit ≠ '.' := by
      rintro rfl
      cases isDigit
    constructor
    · exact List.ne_nil_of_mem (List.mem_filter.mpr ⟨inside, decide_eq_true noDot⟩)
    · intro character member
      obtain ⟨inText, kept⟩ := List.mem_filter.mp member
      exact (signs character inText).resolve_right (of_decide_eq_true kept)
  · rintro ⟨nonempty, digits⟩
    obtain ⟨digit, member⟩ := List.exists_mem_of_ne_nil _ nonempty
    refine ⟨fun character inside => ?_, digit, (List.mem_filter.mp member).1, digits digit member⟩
    by_cases isDot : character = '.'
    · exact .inr isDot
    · exact .inl (digits character (List.mem_filter.mpr ⟨inside, decide_eq_true isDot⟩))

private theorem filter_eq_of_signs
    (signs : ∀ character ∈ text, character.isDigit = true ∨ character = '.') :
    text.filter (· ≠ '.') = text.filter Char.isDigit := by
  apply List.filter_congr
  intro character inside
  rcases signs character inside with isDigit | rfl
  · have noDot : character ≠ '.' := by
      rintro rfl
      cases isDigit
    simp [isDigit, noDot]
  · rfl

/-- Digits and dots hold no comma. -/
theorem IsGrouped.comma_not_mem (grouped : IsGrouped text) : ',' ∉ text := by
  intro member
  rcases grouped.signs ',' member with isDigit | isDot
  · cases isDigit
  · cases isDot

private theorem comma_not_mem_of_isDecimal (decimal : isDecimal fraction = true) :
    ',' ∉ fraction := by
  intro member
  cases (isDecimal_iff.mp decimal).2 ',' member

/-! ## Dots at the end -/

private theorem filter_rdropWhile (text : Text) :
    (text.rdropWhile (· = '.')).filter (· ≠ '.') = text.filter (· ≠ '.') := by
  induction text using List.reverseRecOn with
  | nil => rfl
  | append_singleton front last ih =>
      by_cases isDot : last = '.'
      · rw [List.rdropWhile_concat_pos _ _ _ (by simpa using isDot), ih, List.filter_append]
        simp [isDot]
      · rw [List.rdropWhile_concat_neg _ _ _ (by simpa using isDot)]

/-- A text without its last dots is read like the text. -/
theorem ofDotted_rdropWhile (text : Text) :
    ofDotted (text.rdropWhile (· = '.')) = ofDotted text := by
  induction text using List.reverseRecOn with
  | nil => rfl
  | append_singleton front last ih =>
      by_cases isDot : last = '.'
      · rw [List.rdropWhile_concat_pos _ _ _ (by simpa using isDot), ih, isDot, ofDotted, ofDotted,
          List.splitOn_append_cons_self]
        simp
      · rw [List.rdropWhile_concat_neg _ _ _ (by simpa using isDot)]

/-- Behind the last dot of a text that does not end in one stands a group. -/
theorem ne_nil_of_rdropWhile (split : text.rdropWhile (· = '.') = front ++ '.' :: last) :
    last ≠ [] := by
  rintro rfl
  have nonempty : text.rdropWhile (· = '.') ≠ [] := by simp [split]
  have stops := List.rdropWhile_last_not _ _ nonempty
  simp [split] at stops

/-- A text with dots can be cut at the last of them. -/
theorem exists_last_dot (hasDot : '.' ∈ text) :
    ∃ front last, text = front ++ '.' :: last ∧ '.' ∉ last := by
  obtain ⟨back, others, split, noDot⟩ := List.eq_append_cons_of_mem (List.mem_reverse.mpr hasDot)
  refine ⟨others.reverse, back.reverse, ?_, by simpa using noDot⟩
  rw [← List.reverse_reverse text, split]
  simp

/-! ## Reading by the last group -/

/-- A text without dots is a numeral where it is a decimal. -/
theorem ofDotted_of_dotless (dotless : '.' ∉ text) :
    ofDotted text = if isDecimal text then some ⟨text, []⟩ else none := by
  rw [ofDotted, List.splitOn_eq_singleton dotless]
  by_cases empty : text = []
  · subst empty
    rfl
  · rw [List.reverse_singleton, List.dropWhile_cons_of_neg (by simpa using empty)]
    rfl

/-- What stands behind the last dot is a fraction where it is one or two digits, and a group of the
whole number where it is more. -/
theorem ofDotted_of_last (nonempty : last ≠ []) (dotless : '.' ∉ last) :
    ofDotted (front ++ '.' :: last) =
      if isDecimal (front.filter (· ≠ '.') ++ last) then
        some (if 3 ≤ last.length then ⟨front.filter (· ≠ '.') ++ last, []⟩
          else ⟨front.filter (· ≠ '.'), last⟩)
      else none := by
  obtain ⟨group, groups, split⟩ :=
    List.exists_cons_of_ne_nil (show (front.splitOn '.').reverse ≠ [] by simp)
  have flat : (group :: groups).reverse.flatten = front.filter (· ≠ '.') := by
    rw [← split, List.reverse_reverse]
    exact flatten_splitOn '.' front
  have digits : (isDecimal last && (front.filter (· ≠ '.')).all Char.isDigit) =
      isDecimal (front.filter (· ≠ '.') ++ last) := by
    rw [isDecimal, isDecimal, List.all_append, List.isEmpty_eq_false_iff.mpr nonempty,
      List.isEmpty_eq_false_iff.mpr (List.append_ne_nil_of_right_ne_nil _ nonempty)]
    exact Bool.and_comm _ _
  rw [ofDotted, List.splitOn_append_cons_self, List.splitOn_eq_singleton dotless,
    List.reverse_append, List.reverse_singleton, List.singleton_append,
    List.dropWhile_cons_of_neg (by simpa using nonempty), split]
  simp only [ofReversedGroups, flat, digits]

/-- Without dots, what is left of a text is the text. -/
theorem filter_of_dotless (dotless : '.' ∉ text) : text.filter (· ≠ '.') = text :=
  List.filter_eq_self.mpr fun _ inside => decide_eq_true fun isDot => dotless (isDot ▸ inside)

private theorem filter_of_last (dotless : '.' ∉ last) :
    (front ++ '.' :: last).filter (· ≠ '.') = front.filter (· ≠ '.') ++ last := by
  rw [List.filter_append, List.filter_cons_of_neg (by simp), filter_of_dotless dotless]

/-- Without a comma, digits and dots with a digit among them are a numeral, and nothing else is. -/
theorem isSome_ofDotted_iff (text : Text) : (ofDotted text).isSome = true ↔ IsGrouped text := by
  rw [← ofDotted_rdropWhile, isGrouped_iff, ← filter_rdropWhile]
  by_cases hasDot : '.' ∈ text.rdropWhile (· = '.')
  · obtain ⟨front, last, split, dotless⟩ := exists_last_dot hasDot
    rw [split, ofDotted_of_last (ne_nil_of_rdropWhile split) dotless, filter_of_last dotless]
    split <;> simp_all
  · rw [ofDotted_of_dotless hasDot, filter_of_dotless hasDot]
    split <;> simp_all

/-- Where no dot is left, all digits are one group. -/
theorem ofDotted_of_isGrouped (grouped : IsGrouped text)
    (dotless : '.' ∉ text.rdropWhile (· = '.')) :
    ofDotted text = some ⟨text.filter Char.isDigit, []⟩ := by
  have whole : text.rdropWhile (· = '.') = text.filter (· ≠ '.') :=
    (filter_of_dotless dotless).symm.trans (filter_rdropWhile text)
  rw [← ofDotted_rdropWhile, ofDotted_of_dotless dotless, whole, if_pos (isGrouped_iff.mp grouped),
    filter_eq_of_signs grouped.signs]

/-- A last group of three digits or more goes on the groups before it, and a shorter one is the
fraction. -/
theorem ofDotted_of_last_group (grouped : IsGrouped text)
    (split : text.rdropWhile (· = '.') = front ++ '.' :: last) (dotless : '.' ∉ last) :
    ofDotted text = some (if 3 ≤ last.length then ⟨text.filter Char.isDigit, []⟩
      else ⟨front.filter Char.isDigit, last⟩) := by
  have whole : front.filter (· ≠ '.') ++ last = text.filter (· ≠ '.') := by
    rw [← filter_of_last dotless, ← split, filter_rdropWhile]
  have head : front.filter (· ≠ '.') = front.filter Char.isDigit := by
    apply filter_eq_of_signs
    intro character inside
    apply grouped.signs
    apply (List.rdropWhile_prefix _ text).subset
    rw [split]
    exact List.mem_append_left _ inside
  rw [← ofDotted_rdropWhile, split, ofDotted_of_last (ne_nil_of_rdropWhile split) dotless, whole,
    if_pos (isGrouped_iff.mp grouped), filter_eq_of_signs grouped.signs, head]

/-! ## Commas -/

/-- A text without a comma is read by its dots. -/
theorem ofText?_of_no_comma (noComma : ',' ∉ trimmed text) :
    ofText? text = ofDotted (trimmed text) := by
  rw [ofText?, List.splitOn_eq_singleton noComma]

/-- A comma is followed by the fraction, which has no other comma. -/
theorem ofText?_of_comma (split : trimmed text = integer ++ ',' :: fraction)
    (noComma : ',' ∉ integer) :
    ofText? text = if ',' ∈ fraction then none else ofCommaParts integer fraction := by
  rw [ofText?, split, List.splitOn_append_cons_self, List.splitOn_eq_singleton noComma]
  by_cases again : ',' ∈ fraction
  · obtain ⟨between, behind, rfl⟩ := List.append_of_mem again
    obtain ⟨group, groups, isCut⟩ := List.exists_cons_of_ne_nil (List.splitOn_ne_nil ',' between)
    obtain ⟨other, others, isCutBehind⟩ :=
      List.exists_cons_of_ne_nil (List.splitOn_ne_nil ',' behind)
    rw [if_pos again, List.splitOn_append_cons_self, isCut, isCutBehind]
    cases groups <;> rfl
  · rw [if_neg again, List.splitOn_eq_singleton again]
    rfl

/-- Around a comma, a numeral has digits and dots before it and digits behind it. -/
theorem isSome_ofCommaParts_iff :
    (ofCommaParts integer fraction).isSome = true ↔
      IsGrouped integer ∧ isDecimal fraction = true := by
  rw [isGrouped_iff, ofCommaParts, ← Bool.and_eq_true]
  split <;> simp_all

/-- What stands behind a comma is the fraction, and the dots before it are passed over. -/
theorem ofText?_of_isDecimal (split : trimmed text = integer ++ ',' :: fraction)
    (grouped : IsGrouped integer) (decimal : isDecimal fraction = true) :
    ofText? text = some ⟨integer.filter Char.isDigit, fraction⟩ := by
  rw [ofText?_of_comma split grouped.comma_not_mem, if_neg (comma_not_mem_of_isDecimal decimal),
    ofCommaParts, isGrouped_iff.mp grouped, decimal, filter_eq_of_signs grouped.signs]
  rfl

/-- A text is a numeral where, without white space around it, it is spelled like one. -/
theorem isSome_ofText?_iff (text : Text) :
    (ofText? text).isSome = true ↔ IsSpelling (trimmed text) := by
  constructor
  · intro isNumeral
    by_cases hasComma : ',' ∈ trimmed text
    · obtain ⟨integer, fraction, split, noComma⟩ := List.eq_append_cons_of_mem hasComma
      rw [ofText?_of_comma split noComma] at isNumeral
      by_cases again : ',' ∈ fraction
      · rw [if_pos again] at isNumeral
        cases isNumeral
      · rw [if_neg again, isSome_ofCommaParts_iff] at isNumeral
        exact ⟨integer, _, split, isNumeral.1, .inr ⟨fraction, rfl, isNumeral.2⟩⟩
    · rw [ofText?_of_no_comma hasComma, isSome_ofDotted_iff] at isNumeral
      exact ⟨_, [], (List.append_nil _).symm, isNumeral, .inl rfl⟩
  · rintro ⟨integer, rest, split, grouped, rfl | ⟨fraction, rfl, decimal⟩⟩
    · rw [List.append_nil] at split
      rw [← split] at grouped
      rw [ofText?_of_no_comma grouped.comma_not_mem]
      exact (isSome_ofDotted_iff _).mpr grouped
    · rw [ofText?_of_isDecimal split grouped decimal]
      rfl

/-- **Which texts are numerals, and of which numbers.** After white space is trimmed off, a text is
a numeral exactly where it is digits and dots with a digit among them, perhaps with a comma and
digits behind them. The digits behind a comma are the fraction. Without a comma the dots at the end
are dropped; then, where no dot is left or the last group has three digits or more, all digits are
one whole number, and else the last group is the fraction. -/
theorem valueOf?_spelled (text : Text) :
    let spelling := trimmed text
    let body := spelling.rdropWhile (· = '.')
    ((valueOf? text).isSome = true ↔ IsSpelling spelling) ∧
      (∀ integer fraction, spelling = integer ++ ',' :: fraction → IsGrouped integer →
        isDecimal fraction = true →
          valueOf? text = some (value ⟨integer.filter Char.isDigit, fraction⟩)) ∧
      (IsGrouped spelling → '.' ∉ body →
        valueOf? text = some (value ⟨spelling.filter Char.isDigit, []⟩)) ∧
      (∀ front last, IsGrouped spelling → body = front ++ '.' :: last → '.' ∉ last →
        valueOf? text = some (value (if 3 ≤ last.length then ⟨spelling.filter Char.isDigit, []⟩
          else ⟨front.filter Char.isDigit, last⟩))) ∧
      ∀ numeral : Numeral, ∃ digits : Nat,
        numeral.value = .ofScientific digits true numeral.fraction.length ∧
          (digits : ℚ) / 10 ^ numeral.fraction.length = numeral.exact := by
  intro spelling body
  have ofDotted {numeral : Numeral} (grouped : IsGrouped spelling)
      (isNumeral : ofDotted spelling = some numeral) : valueOf? text = some numeral.value := by
    rw [valueOf?, ofText?_of_no_comma grouped.comma_not_mem, isNumeral]
    rfl
  refine ⟨?_, ?_, ?_, ?_, ?_⟩
  · rw [valueOf?, Option.isSome_map]
    exact isSome_ofText?_iff text
  · intro integer fraction split grouped decimal
    rw [valueOf?, ofText?_of_isDecimal split grouped decimal]
    rfl
  · intro grouped dotless
    exact ofDotted grouped (ofDotted_of_isGrouped grouped dotless)
  · intro front last grouped split dotless
    exact ofDotted grouped (ofDotted_of_last_group grouped split dotless)
  · intro numeral
    exact ⟨_, rfl, numeral.exact_eq.symm⟩

/-- A dot before three digits separates groups, even where no digit stands before it. -/
example : ofText? ['.', '5', '0', '0', '.'] = some ⟨['5', '0', '0'], []⟩ := by decide

end Numeral

end TableSearch
