import TableSearch.Proofs.Query.Remainder
import TableSearch.Proofs.Text.Spacing

/-!
# Queries with other white space

White space ends a token wherever it stands outside quotes, and inside quotes it only separates
words. Main statement: a query with collapsed white space leaves and excludes what the query does.
-/

namespace TableSearch.Exclusions

open Text

variable {atStart : Bool} {run rest text : Text} {blank : Char}

/-- Phrases of the same words exclude the same. -/
theorem excludedWords_congr {payload other : Text} (same : words payload = words other) :
    excludedWords (.exclusion payload) = excludedWords (.exclusion other) := by
  rw [excludedWords, excludedWords, Lexeme.excluded?, Lexeme.excluded?, normalize_congr same]

/-- White space ends a token and is plain text. -/
theorem read_cons_of_blank {Mark : Type} {reading : Lexeme → List Mark}
    (additive : Lexeme.IsAdditive reading) (isWhite : isBlank blank = true) (rest : Text) :
    Lexeme.read reading atStart (blank :: rest) =
      reading (.text [blank]) ++ Lexeme.read reading true rest := by
  have ne_sign {sign : Char} (visible : isBlank sign = false) : blank ≠ sign := by
    rintro rfl
    rw [isWhite] at visible
    cases visible
  rw [Lexeme.read_plain additive (ne_sign (by decide)) (ne_sign (by decide)) (ne_sign (by decide))
    (fun mark => ne_sign (by decide) mark.1), isWhite]

/-- Queries of which the same words are left and which exclude the same words are read alike. -/
theorem ofQuery_congr {query other : Text}
    (remainder : words (Lexeme.read Lexeme.remainder true query) =
      words (Lexeme.read Lexeme.remainder true other))
    (excluded : Lexeme.read excludedWords true query = Lexeme.read excludedWords true other) :
    ofQuery query = ofQuery other := by
  have sameRemainder : (ofQuery query).remainder = (ofQuery other).remainder := by
    rw [remainder_ofQuery, remainder_ofQuery, collapsed, collapsed, remainder]
  have sameExcluded : (ofQuery query).excluded = (ofQuery other).excluded := by
    rw [excluded_ofQuery, excluded_ofQuery, excluded]
  exact congrArg₂ Exclusions.mk sameRemainder sameExcluded

/-! ## Runs of white space -/

/-- What is read from two texts differs in its white space only. -/
structure ReadAlike (atStart : Bool) (text other : Text) : Prop where
  remainder : squeezed (Lexeme.read Lexeme.remainder atStart text) =
    squeezed (Lexeme.read Lexeme.remainder atStart other)
  excluded : Lexeme.read excludedWords atStart text = Lexeme.read excludedWords atStart other

/-- Texts are read alike where they begin with lexemes that say the same and are read alike behind
them. -/
theorem ReadAlike.behind {next : Bool} {lexeme other : Lexeme} {first second firstRest rest : Text}
    (alike : ReadAlike next firstRest rest)
    (ofFirst : ∀ {Mark : Type} {reading : Lexeme → List Mark}, Lexeme.IsAdditive reading →
      Lexeme.read reading atStart first = reading lexeme ++ Lexeme.read reading next firstRest)
    (ofSecond : ∀ {Mark : Type} {reading : Lexeme → List Mark}, Lexeme.IsAdditive reading →
      Lexeme.read reading atStart second = reading other ++ Lexeme.read reading next rest)
    (leaves : ∀ before after, squeezed before = squeezed after →
      squeezed (lexeme.remainder ++ before) = squeezed (other.remainder ++ after))
    (excludes : excludedWords lexeme = excludedWords other) :
    ReadAlike atStart first second := by
  constructor
  · rw [ofFirst Lexeme.isAdditive_remainder, ofSecond Lexeme.isAdditive_remainder]
    exact leaves _ _ alike.remainder
  · rw [ofFirst isAdditive_excludedWords, ofSecond isAdditive_excludedWords, excludes,
      alike.excluded]

/-- Shortening white space makes no quotes. -/
theorem forall_unquoted_squeezed (noQuote : ∀ character ∈ run, character ≠ '"') :
    ∀ character ∈ squeezed run, character ≠ '"' := by
  rintro character member rfl
  exact noQuote '"' (mem_of_mem_squeezed (by decide) member) rfl

/-- A quotation stays a quotation when white space is shortened. -/
theorem squeezed_quotation (run rest : Text) : squeezed ('"' :: (run ++ '"' :: rest)) =
    '"' :: (squeezed run ++ '"' :: squeezed rest) := by
  have visible : isBlank '"' = false := by decide
  rw [squeezed_cons_of_visible visible, squeezed_append_cons visible]

private theorem forall_endsToken_squeezed
    (ends : ∀ next ∈ rest.head?, Piece.endsToken next = true) :
    ∀ next ∈ (squeezed rest).head?, Piece.endsToken next = true := by
  cases rest with
  | nil => exact ends
  | cons character more =>
      intro next isNext
      cases isWhite : isBlank character with
      | true =>
          have nextWhite := head?_squeezed (character :: more)
          rw [Option.mem_def.mp isNext, List.head?_cons, Option.any_some, Option.any_some, isWhite]
            at nextWhite
          exact Place.endsToken_of_isBlank nextWhite
      | false =>
          rw [squeezed_cons_of_visible isWhite] at isNext
          exact ends next isNext

/-- What has no white space stays as it is. -/
theorem squeezed_of_forall (visible : ∀ character ∈ run, isBlank character = false) (rest : Text) :
    squeezed (run ++ rest) = run ++ squeezed rest := by
  induction run with
  | nil => rfl
  | cons character more ih =>
      obtain ⟨here, behind⟩ := List.forall_mem_cons.mp visible
      rw [List.cons_append, squeezed_cons_of_visible here, ih behind, List.cons_append]

/-- Behind white space that goes on, the scan is where it was. -/
theorem readAlike_of_goesOn (isWhite : isBlank blank = true)
    (goesOn : rest.head?.any isBlank = true) (alike : ReadAlike true (squeezed rest) rest) :
    ReadAlike atStart (squeezed (blank :: rest)) (blank :: rest) := by
  have startsBlank {text : Text} (starts : text.head?.any isBlank = true) :
      ∃ first more, text = first :: more ∧ isBlank first = true := by
    obtain ⟨first, isFirst, firstWhite⟩ := (Option.any_eq_true _ _).mp starts
    obtain ⟨more, rfl⟩ := List.head?_eq_some_iff.mp isFirst
    exact ⟨first, more, rfl, firstWhite⟩
  obtain ⟨second, more, rfl, secondWhite⟩ := startsBlank goesOn
  obtain ⟨first, others, split, firstWhite⟩ := startsBlank ((head?_squeezed _).trans goesOn)
  have ends := Place.endsToken_of_isBlank firstWhite
  rw [squeezed_cons_of_blank isWhite, if_pos goesOn]
  rw [split] at alike ⊢
  constructor
  · rw [Lexeme.read_of_endsToken Lexeme.isAdditive_remainder ends, alike.remainder,
      read_cons_of_blank Lexeme.isAdditive_remainder isWhite]
    change _ = squeezed (blank :: Lexeme.read Lexeme.remainder true (second :: more))
    rw [squeezed_cons_of_blank isWhite, if_pos]
    rw [read_cons_of_blank Lexeme.isAdditive_remainder secondWhite]
    exact secondWhite
  · rw [Lexeme.read_of_endsToken isAdditive_excludedWords ends, alike.excluded,
      read_cons_of_blank isAdditive_excludedWords isWhite]
    rfl

private theorem readAlike_of_alone (isWhite : isBlank blank = true)
    (alone : ¬rest.head?.any isBlank = true) (alike : ReadAlike true (squeezed rest) rest) :
    ReadAlike atStart (squeezed (blank :: rest)) (blank :: rest) := by
  rw [squeezed_cons_of_blank isWhite, if_neg alone]
  refine alike.behind (fun additive => read_cons_of_blank additive isBlank_space _)
    (fun additive => read_cons_of_blank additive isWhite rest) ?_ rfl
  intro before after same
  refine (squeezed_cons_congr same ' ').trans ?_
  change squeezed (' ' :: after) = squeezed (blank :: after)
  rw [squeezed_cons_of_blank isBlank_space, squeezed_cons_of_blank isWhite]

/-- A text with its runs of white space made single spaces is read like the text. -/
theorem readAlike_squeezed (atStart : Bool) (text : Text) :
    ReadAlike atStart (squeezed text) text := by
  -- An exclusion leaves a space, whatever it excludes.
  have leavesSpace (before after : Text) (same : squeezed before = squeezed after) :
      squeezed (' ' :: before) = squeezed (' ' :: after) := squeezed_cons_congr same ' '
  induction atStart, text using Piece.scanInduction with
  | nil atStart => exact ⟨rfl, rfl⟩
  | quotation atStart run rest noQuote ih =>
      rw [squeezed_quotation]
      refine ih.behind
        (fun additive => Lexeme.read_quotation additive (forall_unquoted_squeezed noQuote) _)
        (fun additive => Lexeme.read_quotation additive noQuote rest) ?_ rfl
      intro before after same
      simp only [Lexeme.remainder, List.cons_append, List.append_assoc, List.nil_append]
      rw [squeezed_quotation, squeezed_quotation, squeezed_squeezed, same]
  | unclosed atStart run noQuote =>
      have noQuoteInside := forall_unquoted_squeezed noQuote
      rw [squeezed_cons_of_visible (by decide)]
      constructor
      · rw [Lexeme.read_unclosed noQuoteInside, Lexeme.read_unclosed noQuote]
        exact squeezed_cons_congr (squeezed_squeezed run) '"'
      · rw [Lexeme.read_unclosed noQuoteInside, Lexeme.read_unclosed noQuote]
        rfl
  | operator atStart lexeme sign rest isSign ih =>
      have visible : isBlank sign = false := by cases isSign <;> decide
      rw [squeezed_cons_of_visible visible]
      refine ih.behind (fun _ => Lexeme.read_sign isSign _) (fun _ => Lexeme.read_sign isSign rest)
        ?_ rfl
      intro before after same
      rw [(Lexeme.marked_sign isSign).2.1]
      exact squeezed_cons_congr same sign
  | loneMark rest lone ih =>
      have loneInside := forall_endsToken_squeezed lone
      rw [squeezed_cons_of_visible (by decide)]
      constructor
      · rw [Lexeme.read_loneMark loneInside, Lexeme.read_loneMark lone, ih.remainder]
      · rw [Lexeme.read_loneMark loneInside, Lexeme.read_loneMark lone, ih.excluded]
  | word word rest nonempty noPhrase whole ended ih =>
      have visible : ∀ character ∈ word, isBlank character = false := by
        intro character member
        rw [← Bool.not_eq_true]
        intro isWhite
        have ends := whole character member
        rw [Place.endsToken_of_isBlank isWhite] at ends
        cases ends
      rw [squeezed_cons_of_visible (by decide), squeezed_of_forall visible]
      exact ih.behind
        (fun _ => Lexeme.read_exclusion nonempty noPhrase whole (forall_endsToken_squeezed ended))
        (fun _ => Lexeme.read_exclusion nonempty noPhrase whole ended) leavesSpace rfl
  | phrase run rest noQuote ih =>
      rw [squeezed_cons_of_visible (by decide), squeezed_quotation]
      exact ih.behind (fun _ => Lexeme.read_phrase (forall_unquoted_squeezed noQuote) _)
        (fun _ => Lexeme.read_phrase noQuote rest) leavesSpace
        (excludedWords_congr (words_squeezed run))
  | openPhrase run noQuote =>
      have noQuoteInside := forall_unquoted_squeezed noQuote
      rw [squeezed_cons_of_visible (by decide), squeezed_cons_of_visible (by decide)]
      constructor
      · rw [Lexeme.read_openPhrase noQuoteInside, Lexeme.read_openPhrase noQuote]
        rfl
      · rw [Lexeme.read_openPhrase noQuoteInside, Lexeme.read_openPhrase noQuote,
          excludedWords_congr (words_squeezed run)]
  | plain atStart character rest noQuote noAnd noOr noMark ih =>
      cases isWhite : isBlank character with
      | true =>
          rw [isWhite] at ih
          by_cases goesOn : rest.head?.any isBlank = true
          · exact readAlike_of_goesOn isWhite goesOn ih
          · exact readAlike_of_alone isWhite goesOn ih
      | false =>
          rw [squeezed_cons_of_visible isWhite]
          exact ih.behind
            (fun additive => Lexeme.read_plain additive noQuote noAnd noOr noMark _)
            (fun additive => Lexeme.read_plain additive noQuote noAnd noOr noMark rest)
            (fun _ _ same => squeezed_cons_congr same character) rfl

/-- A query is taken apart the same with its runs of white space shortened. -/
theorem ofQuery_squeezed (query : Text) : ofQuery (squeezed query) = ofQuery query := by
  obtain ⟨remainder, excluded⟩ := readAlike_squeezed true query
  apply ofQuery_congr _ excluded
  rw [← words_squeezed, remainder, words_squeezed]

/-! ## White space at the ends -/

/-- White space at the start of a query makes no difference. -/
theorem ofQuery_cons_of_blank (isWhite : isBlank blank = true) (query : Text) :
    ofQuery (blank :: query) = ofQuery query := by
  apply ofQuery_congr
  · rw [read_cons_of_blank Lexeme.isAdditive_remainder isWhite]
    exact words_cons_of_blank isWhite _
  · rw [read_cons_of_blank isAdditive_excludedWords isWhite]
    rfl

private theorem forall_endsToken_append (isWhite : isBlank blank = true)
    (ends : ∀ next ∈ rest.head?, Piece.endsToken next = true) :
    ∀ next ∈ (rest ++ [blank]).head?, Piece.endsToken next = true := by
  intro next isNext
  cases rest with
  | nil => exact Option.some.inj isNext ▸ Place.endsToken_of_isBlank isWhite
  | cons first more => exact ends next isNext

/-- White space behind a text is plain text, or it belongs to an excluded phrase that nothing
closes. -/
theorem exists_read_append_of_blank {Mark : Type} {reading : Lexeme → List Mark}
    (additive : Lexeme.IsAdditive reading) (isWhite : isBlank blank = true)
    (sameExclusion : ∀ run, reading (.exclusion (run ++ [blank])) = reading (.exclusion run))
    (atStart : Bool) (text : Text) :
    ∃ blanks, isBlankText blanks = true ∧
      Lexeme.read reading atStart (text ++ [blank]) =
        Lexeme.read reading atStart text ++ reading (.text blanks) := by
  have white : isBlankText [blank] = true := by
    rw [isBlankText, List.all_cons, isWhite]
    rfl
  have unquoted {run : Text} (noQuote : ∀ character ∈ run, character ≠ '"') :
      ∀ character ∈ run ++ [blank], character ≠ '"' := by
    intro character member
    rcases List.mem_append.mp member with inside | last
    · exact noQuote character inside
    · rw [List.mem_singleton.mp last]
      rintro rfl
      cases isWhite
  induction atStart, text using Piece.scanInduction with
  | nil atStart =>
      refine ⟨[blank], white, ?_⟩
      rw [List.nil_append, read_cons_of_blank additive isWhite, Lexeme.read_nil, Lexeme.read_nil,
        List.append_nil, List.nil_append]
  | quotation atStart run rest noQuote ih =>
      obtain ⟨blanks, whiteBlanks, same⟩ := ih
      refine ⟨blanks, whiteBlanks, ?_⟩
      rw [List.cons_append, List.append_assoc, List.cons_append,
        Lexeme.read_quotation additive noQuote, Lexeme.read_quotation additive noQuote, same,
        List.append_assoc]
  | unclosed atStart run noQuote =>
      refine ⟨[blank], white, ?_⟩
      rw [List.cons_append, Lexeme.read_unclosed (unquoted noQuote), Lexeme.read_unclosed noQuote]
      exact additive ('"' :: run) [blank]
  | operator atStart lexeme sign rest isSign ih =>
      obtain ⟨blanks, whiteBlanks, same⟩ := ih
      refine ⟨blanks, whiteBlanks, ?_⟩
      rw [List.cons_append, Lexeme.read_sign isSign, Lexeme.read_sign isSign, same,
        List.append_assoc]
  | loneMark rest lone ih =>
      rw [List.cons_append, Lexeme.read_loneMark (forall_endsToken_append isWhite lone),
        Lexeme.read_loneMark lone]
      exact ih
  | word word rest nonempty noPhrase whole ended ih =>
      obtain ⟨blanks, whiteBlanks, same⟩ := ih
      refine ⟨blanks, whiteBlanks, ?_⟩
      rw [List.cons_append, List.append_assoc,
        Lexeme.read_exclusion nonempty noPhrase whole (forall_endsToken_append isWhite ended),
        Lexeme.read_exclusion nonempty noPhrase whole ended, same, List.append_assoc]
  | phrase run rest noQuote ih =>
      obtain ⟨blanks, whiteBlanks, same⟩ := ih
      refine ⟨blanks, whiteBlanks, ?_⟩
      rw [List.cons_append, List.cons_append, List.append_assoc, List.cons_append,
        Lexeme.read_phrase noQuote, Lexeme.read_phrase noQuote, same, List.append_assoc]
  | openPhrase run noQuote =>
      have nothing : reading (.text []) = [] := List.self_eq_append_right.mp (additive [] [])
      refine ⟨[], rfl, ?_⟩
      rw [List.cons_append, List.cons_append, Lexeme.read_openPhrase (unquoted noQuote),
        Lexeme.read_openPhrase noQuote, sameExclusion, nothing, List.append_nil]
  | plain atStart character rest noQuote noAnd noOr noMark ih =>
      obtain ⟨blanks, whiteBlanks, same⟩ := ih
      refine ⟨blanks, whiteBlanks, ?_⟩
      rw [List.cons_append, Lexeme.read_plain additive noQuote noAnd noOr noMark,
        Lexeme.read_plain additive noQuote noAnd noOr noMark, same, List.append_assoc]

/-- White space at the end of a query makes no difference. -/
theorem ofQuery_append_of_blank (isWhite : isBlank blank = true) (query : Text) :
    ofQuery (query ++ [blank]) = ofQuery query := by
  apply ofQuery_congr
  · obtain ⟨blanks, white, remainder⟩ :=
      exists_read_append_of_blank Lexeme.isAdditive_remainder isWhite (fun _ => rfl) true query
    rw [remainder]
    exact words_append_of_isBlankText white _
  · obtain ⟨blanks, -, excluded⟩ := exists_read_append_of_blank isAdditive_excludedWords isWhite
      (fun run => excludedWords_congr (words_append_of_blank isWhite run)) true query
    rw [excluded]
    exact List.append_nil _

/-- Collapsing the white space of a query changes neither what it leaves nor what it excludes. -/
theorem ofQuery_collapsed (query : Text) : ofQuery (collapsed query) = ofQuery query := by
  rw [← trimmed_squeezed, apply_trimmed ofQuery ofQuery_cons_of_blank ofQuery_append_of_blank,
    ofQuery_squeezed]

end TableSearch.Exclusions
