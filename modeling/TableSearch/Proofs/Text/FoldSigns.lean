import TableSearch.Proofs.Text.Uppercase

/-!
# White space and digits under folding

Folding makes white space of white space and of nothing else, and the same holds of decimal digits.
The digits, dots and commas of a number are their own folding.
-/

namespace TableSearch.Text

variable {character part : Char}

/-- Whether a code point is that of white space or of a digit, as far as the tables tell. -/
noncomputable def isGapCode (code : Nat) : Bool :=
  (blankTree.lookup code).isSome || (digitTree.lookup code).isSome

/-- What a look through the tables shows: white space is decomposed into white space, and nothing
else is decomposed into white space or digits. -/
private structure DecompositionKeepsGaps : Prop where
  blanks : (blankTree.codes.all fun code => (foldChar (Char.ofNat code)).all isBlank) = true
  decompositions : (decompositionTree.toList.all fun interval =>
    (codesFrom interval.first interval.last).all fun code =>
      isGapCode code || interval.value.all fun part => !isGapCode part) = true
  ideographs : (ideographTree.toList.all fun interval =>
    interval.value.2.all fun part => !isGapCode part) = true
  syllables : ((codesFrom 0x1100 0x11C2).all fun part => !isGapCode part) = true
  signs : ([' ', '.', ','].all fun sign => foldChar sign == [sign]) = true

private theorem decomposition_keeps_gaps : DecompositionKeepsGaps where
  blanks := by decide +kernel
  decompositions := by decide +kernel
  ideographs := by decide +kernel
  syllables := by decide +kernel
  signs := by decide +kernel

private theorem isGapCode_toNat (character : Char) :
    isGapCode character.toNat = (isBlank character || isDigit character) := by
  rw [isGapCode, ← IntervalTree.find?_eq_lookup, ← IntervalTree.find?_eq_lookup]
  rfl

/-- The parts of a syllable are letters. -/
theorem isGapCode_of_mem_hangulParts {index other : Nat} (inside : index < 11172)
    (member : other ∈ hangulParts index) : isGapCode other = false := by
  have within : other ∈ codesFrom 0x1100 0x11C2 := by
    simp only [hangulParts, List.mem_append, List.mem_cons, List.not_mem_nil, or_false] at member
    rcases member with (leading | vowel) | trailing
    · exact mem_codesFrom (by omega) (by omega)
    · exact mem_codesFrom (by omega) (by omega)
    · split at trailing
      · cases trailing
      · rw [List.mem_singleton] at trailing
        exact mem_codesFrom (by omega) (by omega)
  have noGap := List.all_eq_true.mp decomposition_keeps_gaps.syllables other within
  rwa [Bool.not_eq_true'] at noGap

/-- A listed decomposition holds white space and digits only where it is the one of such. -/
theorem isGapCode_of_mem_listed {code other : Nat} {parts : List Nat}
    (listed : decompositionTree.find? code = some parts) (member : other ∈ parts)
    (gap : isGapCode other = true) : isGapCode code = true := by
  obtain ⟨interval, entry, holds, rfl⟩ := IntervalTree.exists_of_find? listed
  have checked := List.all_eq_true.mp
    (List.all_eq_true.mp decomposition_keeps_gaps.decompositions interval entry) code
    (mem_codesFrom holds.1 holds.2)
  rcases (Bool.or_eq_true _ _).mp checked with isGap | noGaps
  · exact isGap
  · have noGap := List.all_eq_true.mp noGaps other member
    rw [gap] at noGap
    cases noGap

/-- No ideograph stands for white space or a digit. -/
theorem isGapCode_of_mem_targets {code first other : Nat} {targets : List Nat}
    (listed : ideographTree.find? code = some (first, targets)) (member : other ∈ targets) :
    isGapCode other = false := by
  obtain ⟨interval, entry, -, same⟩ := IntervalTree.exists_of_find? listed
  have noGaps := List.all_eq_true.mp decomposition_keeps_gaps.ideographs interval entry
  rw [same] at noGaps
  have noGap := List.all_eq_true.mp noGaps other member
  rwa [Bool.not_eq_true'] at noGap

/-- Only white space and digits are decomposed into white space or digits. -/
theorem isGapCode_of_mem_decomposeCode {code other : Nat} (member : other ∈ decomposeCode code)
    (gap : isGapCode other = true) : isGapCode code = true := by
  rw [decomposeCode] at member
  by_cases syllable : hangulOrigin ≤ code ∧ code < hangulOrigin + 11172
  · rw [if_pos syllable] at member
    rw [isGapCode_of_mem_hangulParts (by omega) member] at gap
    cases gap
  · rw [if_neg syllable] at member
    cases listed : decompositionTree.find? code with
    | some parts =>
        rw [listed] at member
        exact isGapCode_of_mem_listed listed member gap
    | none =>
        rw [listed] at member
        cases ideograph : ideographTree.find? code with
        | none =>
            rw [ideograph, List.mem_singleton] at member
            exact member ▸ gap
        | some run =>
            obtain ⟨first, targets⟩ := run
            rw [ideograph, List.mem_singleton] at member
            cases target : targets[code - first]? with
            | none =>
                rw [target, Option.getD_none] at member
                exact member ▸ gap
            | some found =>
                rw [target, Option.getD_some] at member
                rw [member, isGapCode_of_mem_targets ideograph (List.mem_of_getElem? target)] at gap
                cases gap

/-- Folding makes white space and digits of nothing else. -/
theorem isBlank_or_isDigit_of_mem_foldChar (member : part ∈ foldChar character)
    (gap : (isBlank part || isDigit part) = true) :
    (isBlank character || isDigit character) = true := by
  obtain ⟨inParts, -⟩ := List.mem_filter.mp member
  obtain ⟨upper, isUpperCase, inUpper⟩ := List.mem_flatMap.mp inParts
  have upperGap : (isBlank upper || isDigit upper) = true := by
    obtain ⟨upperCode, inUpperCodes, rfl⟩ := List.mem_map.mp isUpperCase
    obtain ⟨upperValid, isUpper⟩ := isUpper_of_mem_upperCodes character.valid inUpperCodes
    rw [decomposeChar, toNat_ofNat_of_isValidChar upperValid] at inUpper
    obtain ⟨code, inDecomposition, rfl⟩ := List.mem_map.mp inUpper
    have settled := isSettled_of_mem_decomposeCode upperValid isUpper inDecomposition
    rw [isSettled, Bool.and_eq_true, decide_eq_true_eq] at settled
    rw [← isGapCode_toNat, toNat_ofNat_of_isValidChar settled.1] at gap
    rw [← isGapCode_toNat, toNat_ofNat_of_isValidChar upperValid]
    exact isGapCode_of_mem_decomposeCode inDecomposition gap
  have readBy : isSyntax upper = true := by
    rw [isSyntax, upperGap, Bool.true_or]
  rwa [eq_of_mem_upperChar isUpperCase readBy] at upperGap

/-- What folding makes of a character is white space where the character is, and a digit where it
is. -/
theorem isBlank_and_isDigit_of_mem_foldChar (member : part ∈ foldChar character) :
    isBlank part = isBlank character ∧ isDigit part = isDigit character := by
  by_cases digit : isDigit character = true
  · rw [(isNormal_of_isDigit digit).folded, List.mem_singleton] at member
    rw [member]
    exact ⟨rfl, rfl⟩
  · have noDigit : isDigit character = false := Bool.eq_false_iff.mpr digit
    cases blank : isBlank character with
    | true =>
        have white := IntervalTree.forall_codes decomposition_keeps_gaps.blanks blank
        rw [Char.ofNat_toNat] at white
        have partBlank := List.all_eq_true.mp white part member
        refine ⟨partBlank, ?_⟩
        rw [noDigit]
        cases partDigit : isDigit part with
        | false => rfl
        | true =>
            rw [(isNormal_of_isDigit partDigit).not_isBlank] at partBlank
            cases partBlank
    | false =>
        have noGap : (isBlank part || isDigit part) = false := by
          cases gap : isBlank part || isDigit part with
          | false => rfl
          | true =>
              have isGap := isBlank_or_isDigit_of_mem_foldChar member gap
              rw [blank, noDigit] at isGap
              cases isGap
        rw [noDigit]
        exact Bool.or_eq_false_iff.mp noGap

/-- The signs of a number and the space are their own folding. -/
theorem foldChar_of_mem {sign : Char} (isSign : sign ∈ [' ', '.', ',']) : foldChar sign = [sign] :=
  beq_iff_eq.mp (List.all_eq_true.mp decomposition_keeps_gaps.signs sign isSign)

/-- Texts can be folded apart. -/
theorem fold_append (first second : Text) : fold (first ++ second) = fold first ++ fold second := by
  rw [fold_eq_flatMap, fold_eq_flatMap, fold_eq_flatMap, List.flatMap_append]

/-- A test that folding keeps of every character holds of a folded text where it holds of the
text. -/
theorem forall_mem_fold {test : Char → Bool} {value : Bool} {text : Text}
    (keeps : ∀ character part, part ∈ foldChar character → test part = test character)
    (passes : ∀ character ∈ text, test character = value) :
    ∀ part ∈ fold text, test part = value := by
  intro part member
  rw [fold_eq_flatMap] at member
  obtain ⟨character, inText, inside⟩ := List.mem_flatMap.mp member
  rw [keeps character part inside, passes character inText]

/-- Folding makes white space of white space, and of nothing else. -/
theorem isBlank_of_mem_fold {text : Text} {value : Bool}
    (passes : ∀ character ∈ text, isBlank character = value) :
    ∀ part ∈ fold text, isBlank part = value :=
  forall_mem_fold (fun _ _ member => (isBlank_and_isDigit_of_mem_foldChar member).1) passes

/-- Folding makes digits of digits, and of nothing else. -/
theorem isDigit_of_mem_fold {text : Text} {value : Bool}
    (passes : ∀ character ∈ text, isDigit character = value) :
    ∀ part ∈ fold text, isDigit part = value :=
  forall_mem_fold (fun _ _ member => (isBlank_and_isDigit_of_mem_foldChar member).2) passes

end TableSearch.Text
