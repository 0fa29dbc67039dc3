import TableSearch.Proofs.Query.Quotation
import TableSearch.Proofs.Query.Settled

/-!
# Where exclusions stand in a query

Words and phrases, asked for and excluded, stand in a query in any order, with spaces between
them. Each of them closes its quotes and the space behind it ends its token, so each is read as if
it stood alone. Main statement: an exclusion takes its own text out of the query and nothing else,
wherever it stands, and neither the order of the exclusions nor their number makes a difference.
-/

namespace TableSearch

open Text

/-- A word or a phrase of a query. -/
inductive Wording where
  | word (text : Text)
  /-- A phrase in double quotes. -/
  | phrase (text : Text)

namespace Wording

/-- The word or phrase itself. -/
def text : Wording → Text
  | word text => text
  | phrase text => text

/-- The normal form that a query excludes with the word or phrase. -/
def normalized (wording : Wording) : Text :=
  normalize wording.text

/-- How a query asks for the word or phrase. -/
def source : Wording → Text
  | word text => text
  | phrase text => '"' :: (text ++ ['"'])

/-- A query can ask for this: a word has no white space, operator or quote and does not begin with a
mark, and a phrase has no quote. -/
def IsAsked : Wording → Prop
  | word text => text.head? ≠ some '#' ∧
      ∀ character ∈ text, Piece.endsToken character = false ∧ character ≠ '"'
  | phrase text => ∀ character ∈ text, character ≠ '"'

/-- A query can exclude this: a word that stands bare, or a phrase without a quote. -/
def IsExcluded : Wording → Prop
  | word text => Exclusions.IsBare text
  | phrase text => ∀ character ∈ text, character ≠ '"'

/-- Decided by a look at the characters of the text, not at all characters. -/
instance : DecidablePred IsAsked
  | word text => @instDecidableAnd _ _ inferInstance (text.decidableBAll _)
  | phrase text => text.decidableBAll _

instance : DecidablePred IsExcluded
  | word text => @decidable_of_iff (Exclusions.IsBare text) _
      ⟨fun bare => ⟨bare.1, bare.2⟩, fun bare => ⟨bare.whole, bare.noPhrase⟩⟩
      (@instDecidableAnd _ _ (text.decidableBAll _) inferInstance)
  | phrase text => text.decidableBAll _

/-- The piece that excludes the word or phrase. -/
def mark : Wording → Piece
  | word text => if text = [] then .loneMark else .exclusion .bare text
  | phrase text => .exclusion .quoted text

/-- What is asked for and what is excluded, each in its own order, as the tokens of one query. -/
inductive Interleaves : List Wording → List Wording → List Text → Prop where
  | none : Interleaves [] [] []
  | asked (wording : Wording) {asked excluded : List Wording} {tokens : List Text} :
      Interleaves asked excluded tokens →
        Interleaves (wording :: asked) excluded (wording.source :: tokens)
  | excluded (wording : Wording) {asked excluded : List Wording} {tokens : List Text} :
      Interleaves asked excluded tokens →
        Interleaves asked (wording :: excluded) (('#' :: wording.source) :: tokens)

variable {wording : Wording}

/-! ## Single words and phrases -/

private theorem isPlain_inside {word : Text}
    (whole : ∀ character ∈ word, Piece.endsToken character = false ∧ character ≠ '"') :
    Place.inside.IsPlain word := by
  induction word with
  | nil => exact Place.isPlain_nil _
  | cons first rest ih =>
      obtain ⟨⟨goesOn, noQuote⟩, behind⟩ := List.forall_mem_cons.mp whole
      rw [Place.isPlain_cons, Place.next_of_ne_quote (by decide) noQuote, goesOn]
      exact ⟨fun mark => Place.noConfusion mark.1, ih behind⟩

/-- What a query can ask for is plain and closes its quotes. -/
theorem IsAsked.isPlain (isAsked : wording.IsAsked) :
    Place.start.IsPlain wording.source ∧ Even (wording.source.count '"') := by
  cases wording with
  | word text =>
      obtain ⟨noMark, whole⟩ := isAsked
      refine ⟨?_, ?_⟩
      · change Place.start.IsPlain text
        cases text with
        | nil => exact Place.isPlain_nil _
        | cons first rest =>
            obtain ⟨⟨goesOn, noQuote⟩, behind⟩ := List.forall_mem_cons.mp whole
            rw [Place.isPlain_cons, Place.next_of_ne_quote (by decide) noQuote, goesOn]
            exact ⟨fun mark => noMark (congrArg some mark.2), isPlain_inside behind⟩
      · have none : text.count '"' = 0 :=
          List.count_eq_zero.mpr fun member => (whole '"' member).2 rfl
        change Even (text.count '"')
        rw [none]
        exact Even.zero
  | phrase text =>
      have uncut := isUncut_quotation isAsked
      exact ⟨uncut.plain, uncut.closed⟩

/-- A mark before a word or phrase is one piece. -/
theorem scan_mark (isExcluded : wording.IsExcluded) :
    Piece.scan true ('#' :: wording.source) = [wording.mark] := by
  have ends : ∀ next ∈ ([] : Text).head?, Piece.endsToken next = true := by simp
  cases wording with
  | word text =>
      change Piece.scan true ('#' :: text) =
        [if text = [] then .loneMark else .exclusion .bare text]
      by_cases lone : text = []
      · rw [if_pos lone, lone, Piece.scan_loneMark ends, Piece.scan_nil]
      · have read := Piece.scan_word lone isExcluded.noPhrase isExcluded.whole ends
        rw [if_neg lone]
        rwa [List.append_nil, Piece.scan_nil] at read
  | phrase text =>
      change Piece.scan true ('#' :: '"' :: (text ++ ['"'])) = _
      rw [Piece.scan_phrase isExcluded, Piece.scan_nil]
      rfl

/-- An exclusion closes its quotes. -/
theorem closesQuotes_mark (isExcluded : wording.IsExcluded) :
    Piece.ClosesQuotes true ('#' :: wording.source) := by
  rw [Piece.ClosesQuotes, scan_mark isExcluded, List.forall_mem_singleton]
  cases wording with
  | word text =>
      rw [mark]
      split <;> rfl
  | phrase text => rfl

/-- An exclusion leaves nothing to see of itself. -/
theorem words_remainder_mark (isExcluded : wording.IsExcluded) :
    words (Lexeme.read Lexeme.remainder true ('#' :: wording.source)) = [] := by
  rw [Lexeme.read, scan_mark isExcluded]
  cases wording with
  | word text =>
      rw [mark]
      split <;> rfl
  | phrase text => rfl

/-- An exclusion excludes its own text. -/
theorem excludedWords_mark (isExcluded : wording.IsExcluded) :
    Lexeme.read Exclusions.excludedWords true ('#' :: wording.source) =
      Exclusions.excludedWords (.exclusion wording.text) := by
  rw [Lexeme.read, scan_mark isExcluded]
  cases wording with
  | word text =>
      rw [mark]
      split
      · next lone =>
        rw [lone]
        rfl
      · exact List.append_nil _
  | phrase text => exact List.append_nil _

end Wording

/-! ## Tokens side by side -/

namespace Exclusions

variable {token : Text} {asked excluded : List Wording} {tokens : List Text}

/-- A first token that closes its quotes is read as if it stood alone. -/
theorem read_joined_cons {Mark : Type} {reading : Lexeme → List Mark}
    (additive : Lexeme.IsAdditive reading) (closes : Piece.ClosesQuotes true token)
    (tokens : List Text) :
    Lexeme.read reading true (joined [' '] (token :: tokens)) =
      Lexeme.read reading true token ++ if tokens = [] then []
        else reading (.text [' ']) ++ Lexeme.read reading true (joined [' '] tokens) := by
  by_cases last : tokens = []
  · rw [if_pos last, last, joined_singleton, List.append_nil]
  · rw [if_neg last, joined_cons last, List.append_assoc, List.singleton_append,
      Lexeme.read_append additive closes (by decide),
      Lexeme.read_plain additive (by decide) (by decide) (by decide) (by decide)]
    rfl

/-- The words that a first token leaves stand before those that the tokens behind it leave. -/
theorem words_remainder_cons (closes : Piece.ClosesQuotes true token) (tokens : List Text) :
    words (Lexeme.read Lexeme.remainder true (joined [' '] (token :: tokens))) =
      words (Lexeme.read Lexeme.remainder true token) ++
        words (Lexeme.read Lexeme.remainder true (joined [' '] tokens)) := by
  rw [read_joined_cons Lexeme.isAdditive_remainder closes]
  split
  · next last =>
    rw [last, List.append_nil, show joined [' '] [] = [] from rfl, Lexeme.read_nil]
    exact (List.append_nil _).symm
  · exact wordsBy_append_cons isBlank_space _ _

/-- What a first token excludes stands before what the tokens behind it exclude. -/
theorem excludedWords_cons (closes : Piece.ClosesQuotes true token) (tokens : List Text) :
    Lexeme.read excludedWords true (joined [' '] (token :: tokens)) =
      Lexeme.read excludedWords true token ++
        Lexeme.read excludedWords true (joined [' '] tokens) := by
  rw [read_joined_cons isAdditive_excludedWords closes]
  split
  · next last => rw [last, show joined [' '] [] = [] from rfl, Lexeme.read_nil]
  · rfl

/-- The words of texts with spaces between them are those of the texts. -/
theorem words_joined_cons (text : Text) (texts : List Text) :
    words (joined [' '] (text :: texts)) = words text ++ words (joined [' '] texts) := by
  by_cases last : texts = []
  · rw [last, joined_singleton]
    exact (List.append_nil _).symm
  · rw [joined_cons last, List.append_assoc]
    exact wordsBy_append_cons isBlank_space _ _

/-- Each token gives its words or what it excludes, so what is read of all of them depends on what
is asked for and on what is excluded alone. -/
theorem read_interleaved (interleaved : Wording.Interleaves asked excluded tokens)
    (areAsked : ∀ wording ∈ asked, wording.IsAsked)
    (areExcluded : ∀ wording ∈ excluded, wording.IsExcluded) :
    words (Lexeme.read Lexeme.remainder true (joined [' '] tokens)) =
        words (joined [' '] (asked.map Wording.source)) ∧
      Lexeme.read excludedWords true (joined [' '] tokens) =
        excluded.flatMap fun wording => excludedWords (.exclusion wording.text) := by
  induction interleaved with
  | none =>
      have read {Mark : Type} (reading : Lexeme → List Mark) :
          Lexeme.read reading true (joined [' '] []) = [] := Lexeme.read_nil
      rw [read, read]
      exact ⟨rfl, rfl⟩
  | asked wording _ ih =>
      obtain ⟨isAsked, areAsked⟩ := List.forall_mem_cons.mp areAsked
      obtain ⟨sameWords, sameExcluded⟩ := ih areAsked areExcluded
      obtain ⟨isPlain, closed⟩ := isAsked.isPlain
      have nothing := (Lexeme.scan_of_isPlain isPlain).1
      have closes := Lexeme.closesQuotes_of_even nothing closed
      rw [words_remainder_cons closes, excludedWords_cons closes, sameWords, sameExcluded,
        read_remainder_of_isPlain isPlain, read_excludedWords_eq_nil nothing, List.map_cons,
        words_joined_cons]
      exact ⟨rfl, rfl⟩
  | excluded wording _ ih =>
      obtain ⟨isExcluded, areExcluded⟩ := List.forall_mem_cons.mp areExcluded
      obtain ⟨sameWords, sameExcluded⟩ := ih areAsked areExcluded
      have closes := Wording.closesQuotes_mark isExcluded
      rw [words_remainder_cons closes, excludedWords_cons closes, sameWords, sameExcluded,
        Wording.words_remainder_mark isExcluded, Wording.excludedWords_mark isExcluded]
      exact ⟨rfl, rfl⟩

/-- What is left of the query is what it asks for, in its order. -/
theorem remainder_interleaved (areAsked : ∀ wording ∈ asked, wording.IsAsked)
    (areExcluded : ∀ wording ∈ excluded, wording.IsExcluded)
    (interleaved : Wording.Interleaves asked excluded tokens) :
    (ofQuery (joined [' '] tokens)).remainder =
      collapsed (joined [' '] (asked.map Wording.source)) := by
  rw [remainder_ofQuery, collapsed, (read_interleaved interleaved areAsked areExcluded).1]
  rfl

/-- The query excludes what its exclusions do, in normal form and whatever their order. -/
theorem mem_excluded_interleaved (areAsked : ∀ wording ∈ asked, wording.IsAsked)
    (areExcluded : ∀ wording ∈ excluded, wording.IsExcluded)
    (interleaved : Wording.Interleaves asked excluded tokens) (word : Text) :
    word ∈ Lexeme.read excludedWords true (joined [' '] tokens) ↔
      word ≠ [] ∧ word ∈ excluded.map Wording.normalized := by
  rw [(read_interleaved interleaved areAsked areExcluded).2, List.mem_flatMap, List.mem_map]
  simp only [mem_excludedWords_exclusion]
  exact ⟨fun ⟨wording, member, nonempty, same⟩ => ⟨nonempty, wording, member, same⟩,
    fun ⟨nonempty, wording, member, same⟩ => ⟨wording, member, nonempty, same⟩⟩

/-- **Where exclusions stand makes no difference.** Words and phrases that a query asks for are
joined with spaces, with exclusions of words and phrases anywhere among them. What is left of the
query is what it asks for, in order and with single spaces, and it excludes the normal forms of what
is excluded, as far as these are not empty. Every other query that asks for the same and excludes
the same, in whatever order and however often, comes to the same. -/
theorem ofQuery_interleaved (areAsked : ∀ wording ∈ asked, wording.IsAsked)
    (areExcluded : ∀ wording ∈ excluded, wording.IsExcluded)
    (interleaved : Wording.Interleaves asked excluded tokens) :
    let exclusions := ofQuery (joined [' '] tokens)
    exclusions.remainder = collapsed (joined [' '] (asked.map Wording.source)) ∧
      (∀ word, word ∈ exclusions.excluded.toTexts ↔
        word ≠ [] ∧ word ∈ excluded.map Wording.normalized) ∧
      ∀ others otherTokens, (∀ wording ∈ others, wording.IsExcluded) →
        Wording.Interleaves asked others otherTokens →
        (∀ word, word ∈ others.map Wording.normalized ↔
          word ∈ excluded.map Wording.normalized) →
        ofQuery (joined [' '] otherTokens) = exclusions := by
  intro exclusions
  have remainder := remainder_interleaved areAsked areExcluded interleaved
  have members := mem_excluded_interleaved areAsked areExcluded interleaved
  refine ⟨remainder, fun word => ?_, ?_⟩
  · rw [excluded_ofQuery, TextSet.mem_toTexts_ofTexts, members]
  · intro others otherTokens othersExcluded othersInterleaved same
    have sameRemainder : (ofQuery (joined [' '] otherTokens)).remainder = exclusions.remainder :=
      (remainder_interleaved areAsked othersExcluded othersInterleaved).trans remainder.symm
    have sameExcluded : (ofQuery (joined [' '] otherTokens)).excluded = exclusions.excluded := by
      rw [excluded_ofQuery, excluded_ofQuery]
      apply TextSet.ofTexts_congr
      intro word
      rw [members, mem_excluded_interleaved areAsked othersExcluded othersInterleaved, same]
    exact congrArg₂ Exclusions.mk sameRemainder sameExcluded

/-- A word and a phrase are asked for and two are excluded, in one order and in another with other
spellings of the excluded ones, one of them twice. -/
theorem ofQuery_interleaved_sample :
    let exclusions := ofQuery (ofString "#acero perno \"a  + #b\" #\"Inox | 2\"")
    exclusions.remainder = ofString "perno \"a + #b\"" ∧
      exclusions.excluded.toTexts = [ofString "ACERO", ofString "INOX 2"] ∧
      ofQuery (ofString "perno #\"inox 2\" #ACERO \"a  + #b\" #acero") = exclusions := by
  intro exclusions
  let perno : Wording := .word (ofString "perno")
  let quoted : Wording := .phrase (ofString "a  + #b")
  let acero : Wording := .word (ofString "acero")
  let inox : Wording := .phrase (ofString "Inox | 2")
  let others : List Wording := [.phrase (ofString "inox 2"), .word (ofString "ACERO"), acero]
  have areAsked : ∀ wording ∈ [perno, quoted], wording.IsAsked := by decide
  have areExcluded : ∀ wording ∈ [acero, inox], wording.IsExcluded := by decide
  have othersExcluded : ∀ wording ∈ others, wording.IsExcluded := by decide
  have normalized : [acero, inox].map Wording.normalized =
        [ofString "ACERO", ofString "INOX 2"] ∧
      others.map Wording.normalized =
        [ofString "INOX 2", ofString "ACERO", ofString "ACERO"] := by
    decide +kernel
  have first : Wording.Interleaves [perno, quoted] [acero, inox] _ :=
    .excluded acero (.asked perno (.asked quoted (.excluded inox .none)))
  have second : Wording.Interleaves [perno, quoted] others _ :=
    .asked perno (.excluded _ (.excluded _ (.asked quoted (.excluded acero .none))))
  obtain ⟨remainder, -, same⟩ := ofQuery_interleaved areAsked areExcluded first
  refine ⟨remainder.trans (by decide), by decide +kernel, ?_⟩
  refine same others _ othersExcluded second fun word => ?_
  rw [normalized.1, normalized.2]
  simp only [List.mem_cons, List.not_mem_nil, or_false, or_self]
  exact or_comm

end Exclusions

end TableSearch
