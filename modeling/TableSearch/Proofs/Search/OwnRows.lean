import TableSearch.Proofs.Denotation
import TableSearch.Proofs.Search.DictionaryWords
import TableSearch.Proofs.Text.NormalForm
import TableSearch.Proofs.Text.WholeWord

/-!
# Words and the rows that they come from

The words to search for are cut out of cells at spaces, and a whole word is looked for between word
boundaries. A dot, a hyphen or a slash can stand at the end of a word that was cut out, and there is
no boundary between it and a space. Main statement: a word without such a sign at its ends is found
in the rows that it comes from and in all rows that hold it, and any other word only inside of
longer ones.
-/

namespace TableSearch

open Text

namespace Text

/-- The signs that words in normal form are written with and that are no parts of words. -/
def edgeSigns : List Char :=
  ['.', '-', '/']

/-- A word begins or ends with a sign that is no part of a word. -/
def HasEdgeSign (word : Text) : Prop :=
  ∃ sign ∈ edgeSigns, word.head? = some sign ∨ word.getLast? = some sign

private theorem edgeSigns_checked : (edgeSigns.all fun sign => !isWordPart sign) = true := by
  decide +kernel

/-- In a normal form, all characters but the three signs are parts of words. -/
theorem IsNormal.isWordPart_iff {character : Char} (normal : IsNormal character) :
    isWordPart character = true ↔ character ∉ edgeSigns := by
  constructor
  · intro isPart isSign
    have noPart := List.all_eq_true.mp edgeSigns_checked character isSign
    rw [isPart] at noPart
    cases noPart
  · intro noSign
    have kept := normal.kept
    rw [isKept, Bool.or_eq_true] at kept
    rw [isWordPart, Bool.or_eq_true, decide_eq_true_eq]
    refine kept.imp_right fun isSign => ?_
    simp only [List.contains_iff_mem, List.mem_cons, List.not_mem_nil, or_false] at isSign
    simp only [edgeSigns, List.mem_cons, List.not_mem_nil, or_false, not_or] at noSign
    rcases isSign with isDot | isHyphen | isUnderscore | isSlash
    · exact absurd isDot noSign.1
    · exact absurd isHyphen noSign.2.1
    · exact isUnderscore
    · exact absurd isSlash noSign.2.2

/-- A word in normal form is found in itself where no sign stands at its ends. -/
theorem containsWord_self_iff {word : Text} (nonempty : word ≠ [])
    (normal : ∀ character ∈ word, IsNormal character) :
    containsWord word word = true ↔ ¬HasEdgeSign word := by
  have first := (normal _ (List.head_mem nonempty)).isWordPart_iff
  have last := (normal _ (List.getLast_mem nonempty)).isWordPart_iff
  rw [containsWord_self, HasEdgeSign, List.head?_eq_some_head nonempty,
    List.getLast?_eq_some_getLast nonempty, Option.any_some, Option.any_some, Bool.and_eq_true,
    first, last]
  simp only [Option.some.injEq, and_or_left, exists_or, exists_eq_right', not_or]

end Text

/-- The words of a cell are those of its folding. -/
theorem Cell.words_normalized (cell : Cell) : words cell.normalized = foldedWords cell.raw := by
  rw [cell.normalized_eq, words_normalize]

/-- A word in normal form is found in a cell where it is found in one of its words. -/
theorem Cell.containsWord_normalized (cell : Cell) {word : Text}
    (normal : ∀ character ∈ word, IsNormal character) :
    containsWord cell.normalized word = (words cell.normalized).any (containsWord · word) := by
  have noSpace : ' ' ∉ word := fun member => (normal ' ' member).ne_sign (by decide) rfl
  rw [cell.words_normalized, cell.normalized_eq, Text.normalize, containsWord_joined noSpace]

namespace Target

variable {target : Target} {selection : Selection} {word : Text}

/-- A word is one of the words of a cell that is looked at in a row. -/
def HasToken (target : Target) (word : Text) (index : Nat) : Prop :=
  target.SomeCell index fun cell => word ∈ words cell.normalized

/-- A word is found in a cell that is looked at in a row. -/
def Finds (target : Target) (word : Text) (index : Nat) : Prop :=
  target.SomeCell index fun cell => containsWord cell.normalized word = true

/-- A word is found in a longer word of a cell that is looked at in a row. -/
def FindsInside (target : Target) (word : Text) (index : Nat) : Prop :=
  target.SomeCell index fun cell =>
    ∃ longer ∈ words cell.normalized, longer ≠ word ∧ containsWord longer word = true

/-- The words in a selection are the tokens of its rows. -/
theorem mem_wordsIn_iff : word ∈ target.wordsIn selection ↔
    ∃ index, selection.contains index = true ∧ target.HasToken word index := by
  have isSelected (index : Nat) :
      selection.contains index = true ↔ selection.bits[index]? = some true := by
    rw [Selection.contains, Option.getD_eq_iff]
    simp
  simp only [wordsIn, List.mem_flatMap, List.mem_filter, isSelected]
  constructor
  · rintro ⟨⟨row, selected⟩, ⟨inZip, rfl⟩, cell, inRow, isWord⟩
    obtain ⟨index, isPair⟩ := List.mem_iff_getElem?.mp inZip
    obtain ⟨isRow, isBit⟩ := List.getElem?_zip_eq_some.mp isPair
    obtain ⟨column, looked, isCell⟩ := (mem_cells_iff isRow).mp inRow
    exact ⟨index, isBit, column, looked, cell, isCell, isWord⟩
  · rintro ⟨index, isBit, column, looked, cell, isCell, isWord⟩
    obtain ⟨row, isRow, -⟩ := Option.bind_eq_some_iff.mp isCell
    refine ⟨(row, true), ⟨?_, rfl⟩, cell, (mem_cells_iff isRow).mpr ⟨column, looked, isCell⟩,
      isWord⟩
    exact List.mem_iff_getElem?.mpr ⟨index, List.getElem?_zip_eq_some.mpr ⟨isRow, isBit⟩⟩

/-- A row is among those that pass a test where it has a cell for which it does. -/
theorem contains_rowsWhere_of_someCell {test : List (Option Cell) → Bool} {index : Nat}
    {passes : Cell → Prop} (found : target.SomeCell index passes)
    (holds : ∀ row, target.table.rows[index]? = some row → test row = true) :
    (target.rowsWhere test).contains index = true := by
  obtain ⟨row, isRow⟩ := found.exists_row
  exact Selection.contains_ofTest_iff.mpr ⟨row, isRow, holds row isRow⟩

private theorem Finds.contains_wordRows {index : Nat} (finds : target.Finds word index) :
    (target.wordRows word).contains index = true :=
  contains_rowsWhere_of_someCell finds fun _ isRow => (rowHasWord_iff isRow word).mpr finds

/-- A word in normal form is found where it is found in a word of a cell. -/
theorem finds_iff (normal : ∀ character ∈ word, IsNormal character) {index : Nat} :
    target.Finds word index ↔ target.SomeCell index fun cell =>
      ∃ token ∈ words cell.normalized, containsWord token word = true := by
  simp only [Finds, Cell.containsWord_normalized _ normal, List.any_eq_true]

/-- A token of normal characters is found in its row, where neither end of it is a sign. -/
theorem HasToken.finds {index : Nat} (hasToken : target.HasToken word index) (nonempty : word ≠ [])
    (normal : ∀ character ∈ word, IsNormal character) (noSign : ¬HasEdgeSign word) :
    target.Finds word index := by
  obtain ⟨column, looked, cell, isCell, isWord⟩ := hasToken
  have inItself := (containsWord_self_iff nonempty normal).mpr noSign
  exact (finds_iff normal).mpr ⟨column, looked, cell, isCell, word, isWord, inItself⟩

/-- A word with a sign at an end is found inside of longer words only. -/
theorem finds_iff_findsInside {index : Nat} (nonempty : word ≠ [])
    (normal : ∀ character ∈ word, IsNormal character) (sign : HasEdgeSign word) :
    target.Finds word index ↔ target.FindsInside word index := by
  have notInItself : ¬containsWord word word = true :=
    mt (containsWord_self_iff nonempty normal).mp (not_not_intro sign)
  rw [finds_iff normal, FindsInside]
  constructor
  · rintro ⟨column, looked, cell, isCell, token, isWord, inside⟩
    refine ⟨column, looked, cell, isCell, token, isWord, ?_, inside⟩
    rintro rfl
    exact notInItself inside
  · rintro ⟨column, looked, cell, isCell, longer, isWord, -, inside⟩
    exact ⟨column, looked, cell, isCell, longer, isWord, inside⟩

end Target

/-- **Words find their rows.** A word that selected rows lead to is one of the words of a cell of
theirs. Without a dot, hyphen or slash at its ends it is found there and in every row with a cell
that has this word; so the query for all of the words leads to that row, unless the word is written
like a range of numbers. With such a sign at an end it is only found inside of longer words. -/
theorem searchWords_find_rows {target : Target} {selection : Selection} {word : Text}
    (member : word ∈ target.searchWords selection) :
    (∃ index, selection.contains index = true ∧ target.HasToken word index) ∧
      (¬HasEdgeSign word →
        (∃ index, selection.contains index = true ∧ target.Finds word index) ∧
          (∀ (other : Target) (index : Nat), other.HasToken word index →
            (other.wordRows word).contains index = true) ∧
          (Term.range? word = none → ∀ (searcher : Searcher) (columns : List Nat) (index : Nat),
            let descriptions := searcher.descriptionTarget columns
            descriptions.HasToken word index →
              (searcher.rowsOfWords descriptions (target.searchWords selection)).contains index =
                true)) ∧
      (HasEdgeSign word → ∀ (other : Target) (index : Nat),
        other.Finds word index ↔ other.FindsInside word index) := by
  obtain ⟨nonempty, normal⟩ := Target.proper_of_mem_searchWords member
  have source := Target.mem_wordsIn_iff.mp (Target.mem_searchWords.mp member).1
  refine ⟨source, fun noSign => ⟨?_, ?_, ?_⟩, fun sign other index => ?_⟩
  · obtain ⟨index, selected, hasToken⟩ := source
    exact ⟨index, selected, hasToken.finds nonempty normal noSign⟩
  · intro other index hasToken
    exact (hasToken.finds nonempty normal noSign).contains_wordRows
  · intro noRange searcher columns index descriptions hasToken
    have finds := hasToken.finds nonempty normal noSign
    rw [Searcher.rowsOfWords_eq]
    refine Target.contains_rowsWhere_of_someCell finds fun row isRow => ?_
    rw [Searcher.wordsHold_eq fun _ => Target.proper_of_mem_searchWords, List.any_eq_true]
    refine ⟨word, member, ?_⟩
    rw [Target.rowHasReading, noRange]
    exact (Target.rowHasWord_iff isRow word).mpr finds
  · exact Target.finds_iff_findsInside nonempty normal sign

/-- The word `SW-24P` finds the row that it comes from. The word `-M8`, which comes from the other
row, finds neither, as no longer word holds it. -/
theorem searchWords_find_rows_sample :
    let target : Target := ⟨.ofTexts [ofString "part"] (["perno -M8", "switch SW-24P"].map
      fun text => [some (ofString text)]), [0], .empty⟩
    ofString "SW-24P" ∈ target.searchWords target.all ∧ ¬HasEdgeSign (ofString "SW-24P") ∧
      (target.wordRows (ofString "SW-24P")).contains 1 = true ∧
      ofString "-M8" ∈ target.searchWords target.all ∧ HasEdgeSign (ofString "-M8") ∧
      ¬∃ index, target.FindsInside (ofString "-M8") index := by
  intro target
  have words : target.searchWords target.all =
      [ofString "-M8", ofString "PERNO", ofString "SW-24P", ofString "SWITCH"] := by decide +kernel
  have plain : ofString "SW-24P" ∈ target.searchWords target.all := by
    rw [words]
    exact List.mem_of_getElem? (show _[2]? = _ from rfl)
  have signed : ofString "-M8" ∈ target.searchWords target.all := by
    rw [words]
    exact List.mem_cons_self
  have noSign : ¬HasEdgeSign (ofString "SW-24P") := by
    have first : (ofString "SW-24P").head? = some 'S' := rfl
    have last : (ofString "SW-24P").getLast? = some 'P' := rfl
    simp [HasEdgeSign, edgeSigns, first, last]
  have sign : HasEdgeSign (ofString "-M8") :=
    ⟨'-', List.mem_cons_of_mem _ List.mem_cons_self, .inl rfl⟩
  refine ⟨plain, noSign, ?_, signed, sign, fun ⟨index, inside⟩ => ?_⟩
  · obtain ⟨-, finds, -⟩ := searchWords_find_rows plain
    refine (finds noSign).2.1 target 1 ⟨0, by decide, .ofText (ofString "switch SW-24P"), rfl, ?_⟩
    decide +kernel
  · obtain ⟨-, -, finds⟩ := searchWords_find_rows signed
    have found := ((finds sign target index).mpr inside).contains_wordRows
    have nothing : target.wordRows (ofString "-M8") = .none 2 := by decide +kernel
    rw [nothing, Selection.contains_none] at found
    cases found

/-- A row of the dictionary that holds nothing but `-M8` leads to this word, which is found in no
cell of that row. -/
theorem searchWords_miss_sign :
    let target : Target := ⟨.ofTexts [ofString "part"] [[some (ofString "-M8")]], [0], .empty⟩
    target.searchWords target.all = [ofString "-M8"] ∧
      ¬∀ word ∈ target.searchWords target.all,
        ∃ index, target.all.contains index = true ∧ target.Finds word index := by
  intro target
  have words : target.searchWords target.all = [ofString "-M8"] := by decide +kernel
  refine ⟨words, fun alive => ?_⟩
  rw [words] at alive
  obtain ⟨index, -, finds⟩ := alive _ List.mem_cons_self
  have found := finds.contains_wordRows
  have nothing : target.wordRows (ofString "-M8") = .none 1 := by decide +kernel
  rw [nothing, Selection.contains_none] at found
  cases found

end TableSearch
