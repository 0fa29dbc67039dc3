import Mathlib.Tactic.SplitIfs
import TableSearch.Proofs.Text.Words
import TableSearch.Text.Quoted

/-!
# Lines and fields

A line feed ends each line of a text, and tabs separate the fields of a line. Main statements: lines
and fields that hold neither sign are read back from the text that they make, and what is read from
any text holds neither sign. Quoted texts and numbers in decimal digits hold neither.
-/

namespace TableSearch.Text

variable {text part : Text} {separator : Char}

/-- A text that can be a field of a line. -/
def IsField (text : Text) : Prop :=
  '\t' ∉ text ∧ '\n' ∉ text

instance (text : Text) : Decidable (IsField text) :=
  inferInstanceAs (Decidable (_ ∧ _))

/-- The text of lines, each ended by a line feed. -/
def ofLines (lines : List Text) : Text :=
  (lines.map (· ++ ['\n'])).flatten

/-- The lines of a text, as far as line feeds end them. -/
def lines (text : Text) : List Text :=
  (text.splitOn '\n').dropLast

/-- A part of a text between separators holds none of them. -/
theorem not_mem_of_mem_splitOn (member : part ∈ text.splitOn separator) : separator ∉ part := by
  rw [List.splitOn_eq_splitOnP] at member
  intro inside
  simpa using (mem_of_mem_splitOnP member inside).2

/-- What is in a part of a text is in the text. -/
theorem mem_of_mem_splitOn (member : part ∈ text.splitOn separator) {character : Char}
    (inside : character ∈ part) : character ∈ text := by
  rw [List.splitOn_eq_splitOnP] at member
  exact (mem_of_mem_splitOnP member inside).1

/-- A text with a separator has more than one part. -/
theorem splitOn_ne_singleton (cut : separator ∈ text) (part : Text) :
    text.splitOn separator ≠ [part] := by
  intro alone
  have whole : [separator].intercalate (text.splitOn separator) = text :=
    List.intercalate_splitOn separator
  rw [alone, List.intercalate_singleton] at whole
  subst whole
  exact not_mem_of_mem_splitOn (alone ▸ List.mem_singleton_self part) cut

/-- Lines without a line feed are read back. -/
theorem lines_ofLines {texts : List Text} (whole : ∀ line ∈ texts, '\n' ∉ line) :
    lines (ofLines texts) = texts := by
  have split : (ofLines texts).splitOn '\n' = texts ++ [[]] := by
    induction texts with
    | nil => rfl
    | cons line rest ih =>
        obtain ⟨here, behind⟩ := List.forall_mem_cons.mp whole
        rw [ofLines, List.map_cons, List.flatten_cons, List.append_assoc, List.singleton_append,
          List.splitOn_append_cons_self_of_not_mem here, ← ofLines, ih behind, List.cons_append]
  rw [lines, split, List.dropLast_concat]

/-- Texts that end with a line feed each are the lines of what is before it. -/
theorem ofLines_dropLast {texts : List Text}
    (ended : ∀ text ∈ texts, ∃ line, text = line ++ ['\n']) :
    ofLines (texts.map List.dropLast) = texts.flatten := by
  have restored : ∀ text ∈ texts, text.dropLast ++ ['\n'] = text := by
    intro text member
    obtain ⟨line, rfl⟩ := ended text member
    rw [List.dropLast_concat]
  rw [ofLines, List.map_map]
  exact congrArg List.flatten ((List.map_congr_left restored).trans (List.map_id texts))

/-! ## What holds no tab and no line feed -/

private theorem isField_append_iff {first second : Text} :
    IsField (first ++ second) ↔ IsField first ∧ IsField second := by
  simp only [IsField, List.mem_append, not_or, and_and_and_comm]

/-- Texts in a row can be a field where each can. -/
theorem isField_ofString_append_iff {first second : String} :
    IsField (ofString (first ++ second)) ↔
      IsField (ofString first) ∧ IsField (ofString second) := by
  rw [ofString, String.toList_append, isField_append_iff]
  rfl

/-- Digits hold no tab and no line feed, in bases up to sixteen. -/
theorem isField_toDigits {base : Nat} (isBase : 1 < base) (hasDigits : base ≤ 16) (number : Nat) :
    IsField (Nat.toDigits base number) := by
  have isField_digit : ∀ digit < 16, IsField [Nat.digitChar digit] := by decide
  induction number using Nat.strongRecOn with
  | ind number ih =>
      rw [Nat.toDigits_eq_if isBase]
      split
      next small => exact isField_digit number (Nat.lt_of_lt_of_le small hasDigits)
      next large =>
        have shorter : number / base < number := Nat.div_lt_self (by omega) isBase
        have isDigit : number % base < base := Nat.mod_lt _ (by omega)
        exact isField_append_iff.mpr
          ⟨ih _ shorter, isField_digit _ (Nat.lt_of_lt_of_le isDigit hasDigits)⟩

/-- A number can be a field. -/
theorem isField_toString (number : Nat) : IsField (ofString (toString number)) := by
  rw [Nat.toString_eq_ofList_toDigits, ofString, String.toList_ofList]
  exact isField_toDigits (by decide) (by decide) number

private theorem isField_quotedChar (character : Char) : IsField (quotedChar character) := by
  by_cases isTab : character = '\t'
  · subst isTab
    decide
  by_cases isFeed : character = '\n'
  · subst isFeed
    decide
  have isField : IsField [character] :=
    ⟨fun inside => isTab (List.mem_singleton.mp inside).symm,
      fun inside => isFeed (List.mem_singleton.mp inside).symm⟩
  have backslash : IsField ['\\'] := by decide
  have digits := isField_toDigits (by decide) (Nat.le_refl 16) character.toNat
  unfold quotedChar
  split_ifs
  · decide
  · decide
  · exact isField_append_iff.mpr ⟨backslash, isField⟩
  · simp only [codePointEscape, isField_append_iff]
    exact ⟨⟨by decide, digits⟩, by decide⟩
  · exact isField

/-- A quoted text can be a field, whatever it quotes. -/
theorem isField_quoted (text : Text) : IsField (quoted text) := by
  have escaped : IsField (text.flatMap quotedChar) := by
    constructor
    · intro inside
      obtain ⟨character, -, inChar⟩ := List.mem_flatMap.mp inside
      exact (isField_quotedChar character).1 inChar
    · intro inside
      obtain ⟨character, -, inChar⟩ := List.mem_flatMap.mp inside
      exact (isField_quotedChar character).2 inChar
  simp only [quoted, isField_append_iff]
  exact ⟨⟨by decide, escaped⟩, by decide⟩

end TableSearch.Text
