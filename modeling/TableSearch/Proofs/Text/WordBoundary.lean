import TableSearch.Proofs.Text.Fold
import TableSearch.Text.WholeWord
import TableSearch.Text.WordChar

/-!
# Boundaries of words and of identifiers

A whole word is bounded by what is no letter, number or underscore, the unit in a cell by what
cannot stand in an identifier. Folding removes the marks, and of the connectors a normal form keeps
the underscore only, so in a normal form the two classes differ in one kind of character: numbers
that are neither digits nor letters, such as superscripts and fractions. Main statement: the two
kinds of boundary are the same at a position of a normal form unless such a number stands on one
side of it alone, so they are the same at all positions exactly where no such number is in the
normal form.
-/

namespace TableSearch.Text

variable {text : Text} {character : Char}

/-- Whether an identifier begins or ends between two characters; `none` is the end of the text. -/
def isIdentifierBoundary (before after : Option Char) : Bool :=
  before.any isWordChar != after.any isWordChar

/-! ## The characters of a normal form -/

/-- What a look at the connectors, the other numbers and the space shows. -/
private structure WordClassesChecked : Prop where
  connectors : (connectorTree.codes.all fun code =>
    decide (Char.ofNat code = '_') || !isKept (Char.ofNat code)) = true
  otherNumbers : (otherNumberTree.codes.all fun code =>
    (alphabeticTree.lookup code).isNone && (markTree.lookup code).isNone &&
      (digitTree.lookup code).isNone && (connectorTree.lookup code).isNone) = true
  underscore : isConnector '_' = true
  space : isWordPart ' ' = false ∧ isWordChar ' ' = false ∧ isOtherNumber ' ' = false

private theorem word_classes_checked : WordClassesChecked where
  connectors := by decide +kernel
  otherNumbers := by decide +kernel
  underscore := by decide +kernel
  space := by decide +kernel

/-- No mark is left by folding. -/
theorem IsNormal.not_isMark (normal : IsNormal character) : isMark character = false := by
  have kept : character ∈ foldChar character := normal.folded ▸ List.mem_singleton_self character
  have noMark := (List.mem_filter.mp kept).2
  rwa [Bool.not_eq_true'] at noMark

/-- The underscore is the one connector of words in normal form. -/
theorem IsNormal.isConnector_eq (normal : IsNormal character) :
    isConnector character = decide (character = '_') := by
  cases connects : isConnector character with
  | true =>
      have checked := IntervalTree.forall_codes word_classes_checked.connectors connects
      rw [Char.ofNat_toNat, normal.kept, Bool.not_true, Bool.or_false] at checked
      exact checked.symm
  | false =>
      symm
      rw [decide_eq_false_iff_not]
      rintro rfl
      rw [word_classes_checked.underscore] at connects
      cases connects

private theorem not_isWordChar_of_isOtherNumber (other : isOtherNumber character = true) :
    isWordChar character = false := by
  have checked := IntervalTree.forall_codes word_classes_checked.otherNumbers other
  simp only [Bool.and_eq_true, ← IntervalTree.find?_eq_lookup, Option.isNone_iff_eq_none] at checked
  simp only [isWordChar, isAlphabetic, isMark, isDigit, isConnector, IntervalTree.contains, checked,
    Option.isSome_none, Bool.or_self]

/-- In a normal form, words have the characters of identifiers and other numbers. -/
theorem isWordPart_of_mem_normalize (member : character ∈ normalize text) :
    isWordPart character = (isWordChar character != isOtherNumber character) := by
  by_cases isSpace : character = ' '
  · obtain ⟨noPart, noWordChar, noOther⟩ := word_classes_checked.space
    rw [isSpace, noPart, noWordChar, noOther]
    rfl
  · have normal := isNormal_of_mem_normalize member isSpace
    cases other : isOtherNumber character with
    | true =>
        rw [not_isWordChar_of_isOtherNumber other, isWordPart, isAlphanumeric, other, Bool.or_true,
          Bool.true_or]
        rfl
    | false =>
        rw [isWordPart, isAlphanumeric, other, isWordChar, normal.not_isMark, normal.isConnector_eq,
          Bool.or_false, Bool.or_false, Bool.bne_false]

/-- In a normal form, the two readings of a word part differ by the other numbers only. -/
theorem any_isWordPart {neighbour : Option Char}
    (inside : ∀ character ∈ neighbour, character ∈ normalize text) :
    neighbour.any isWordPart = (neighbour.any isWordChar != neighbour.any isOtherNumber) := by
  cases neighbour with
  | none => rfl
  | some character =>
      rw [Option.any_some, Option.any_some, Option.any_some]
      exact isWordPart_of_mem_normalize (inside character rfl)

/-! ## The positions of a normal form -/

private theorem mem_of_mem_neighbours {before after : Text} (split : before ++ after = text) :
    (∀ character ∈ before.getLast?, character ∈ text) ∧
      ∀ character ∈ after.head?, character ∈ text :=
  ⟨fun _ isLast => split ▸ List.mem_append_left _ (List.mem_of_getLast? isLast),
    fun _ isFirst => split ▸ List.mem_append_right _ (List.mem_of_mem_head? isFirst)⟩

/-- At a position of a normal form, a word begins or ends where an identifier does, but the other
way round where one neighbour alone is another number. -/
theorem isBoundary_eq {before after : Text} (isNormalForm : before ++ after = normalize text) :
    isBoundary before.getLast? after.head? =
      (isIdentifierBoundary before.getLast? after.head? !=
        (before.getLast?.any isOtherNumber != after.head?.any isOtherNumber)) := by
  obtain ⟨beforeInside, afterInside⟩ := mem_of_mem_neighbours isNormalForm
  rw [isBoundary, isIdentifierBoundary, any_isWordPart beforeInside, any_isWordPart afterInside]
  generalize before.getLast?.any isOtherNumber = beforeOther,
    after.head?.any isOtherNumber = afterOther
  cases beforeOther <;> cases afterOther <;> simp

/-- The two kinds of boundary are the same where both neighbours are other numbers or neither is. -/
theorem isBoundary_eq_iff {before after : Text} (isNormalForm : before ++ after = normalize text) :
    isBoundary before.getLast? after.head? = isIdentifierBoundary before.getLast? after.head? ↔
      before.getLast?.any isOtherNumber = after.head?.any isOtherNumber := by
  rw [isBoundary_eq isNormalForm]
  generalize before.getLast?.any isOtherNumber = beforeOther,
    after.head?.any isOtherNumber = afterOther
  cases beforeOther <;> cases afterOther <;> simp

/-- In front of the first other number of a text, the number alone is one. -/
theorem exists_position_before_otherNumber (member : character ∈ text)
    (other : isOtherNumber character = true) :
    ∃ before after, before ++ after = text ∧
      before.getLast?.any isOtherNumber = false ∧ after.head?.any isOtherNumber = true := by
  induction text with
  | nil => cases member
  | cons first rest ih =>
      cases isFirst : isOtherNumber first with
      | true => exact ⟨[], first :: rest, rfl, rfl, isFirst⟩
      | false =>
          obtain rfl | inRest := List.mem_cons.mp member
          · rw [isFirst] at other
            cases other
          · obtain ⟨before, after, rfl, noneBefore, oneAfter⟩ := ih inRest
            refine ⟨first :: before, after, rfl, ?_, oneAfter⟩
            cases before with
            | nil => exact isFirst
            | cons second more => exact noneBefore

/-- **Where words and identifiers have the same boundaries.** At each position of a normal form, its
ends among them, a word begins or ends where an identifier does, but the other way round where one
of the two neighbours alone is a number that is neither a digit nor a letter. So the two kinds of
boundary are the same at all positions of a normal form exactly where it has no such number. -/
theorem isBoundary_normalize (text : Text) :
    let agree := fun before after : Text =>
      isBoundary before.getLast? after.head? = isIdentifierBoundary before.getLast? after.head?
    (∀ before after, before ++ after = normalize text →
      (agree before after ↔ before.getLast?.any isOtherNumber = after.head?.any isOtherNumber)) ∧
      ((∀ before after, before ++ after = normalize text → agree before after) ↔
        ∀ character ∈ normalize text, isOtherNumber character = false) := by
  intro agree
  refine ⟨fun _ _ => isBoundary_eq_iff, fun same character member => ?_,
    fun noOther before after isNormalForm => ?_⟩
  · cases other : isOtherNumber character with
    | false => rfl
    | true =>
        obtain ⟨before, after, split, noneBefore, oneAfter⟩ :=
          exists_position_before_otherNumber member other
        have sides := (isBoundary_eq_iff split).mp (same before after split)
        rw [noneBefore, oneAfter] at sides
        cases sides
  · have noneIn {neighbour : Option Char}
        (inside : ∀ character ∈ neighbour, character ∈ normalize text) :
        neighbour.any isOtherNumber = false := by
      cases neighbour with
      | none => rfl
      | some character => exact noOther character (inside character rfl)
    obtain ⟨beforeInside, afterInside⟩ := mem_of_mem_neighbours isNormalForm
    exact (isBoundary_eq_iff isNormalForm).mpr
      ((noneIn beforeInside).trans (noneIn afterInside).symm)

/-- An identifier ends between a letter and a superscript, a word does not. -/
example :
    let text := ofString "5 m²"
    normalize text = ofString "5 M²" ∧ containsWord (normalize text) (ofString "M") = false ∧
      isIdentifierBoundary (some 'M') (some '²') = true ∧
        isBoundary (some 'M') (some '²') = false := by
  decide +kernel

end TableSearch.Text
