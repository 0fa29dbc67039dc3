import Mathlib.Data.List.Basic
import TableSearch.Proofs.Query.Parts
import TableSearch.Proofs.Text.OrderedMap

/-!
# What is left of a query

Of a text that asks only, with all quotes closed, a plain text is left, and of such texts joined
with an operator what is left of each, joined with the operator. Exclusions behind such a text
leave it as it is.
-/

namespace TableSearch

open Text

/-- A query that excludes nothing and closes its quotes. -/
structure IsAsking (query : Text) : Prop where
  excludesNothing : Lexeme.read Lexeme.payloads true query = []
  closed : Even (query.count '"')

/-- A text that can be left of a query: no mark of exclusion starts a token, quotes are closed, and
no white space is at the ends. -/
structure IsRemainder (text : Text) : Prop where
  plain : Place.start.IsPlain text
  closed : Even (text.count '"')
  isTrimmed : IsTrimmed text

/-- A text that can be left of a query as one part: it is not empty, and no operator cuts it. -/
structure IsUncut (text : Text) : Prop extends IsRemainder text where
  nonempty : text ≠ []
  noOperator : ∀ operator, (operator, true) ∉ Place.start.marked text

variable {query before after suffix text : Text} {lexeme : Lexeme} {sign : Char}

theorem IsAsking.of_lexemes (asks : ∀ payload, .exclusion payload ∉ Lexeme.scan query)
    (closed : Even (query.count '"')) : IsAsking query :=
  ⟨Lexeme.read_payloads_eq_nil_iff.mpr asks, closed⟩

/-- A query of plain text and `|` excludes nothing and has no `+`. -/
theorem IsAsking.of_text_or
    (lexemes : ∀ lexeme ∈ Lexeme.scan query, (∃ content, lexeme = .text content) ∨ lexeme = .or)
    (closed : Even (query.count '"')) : IsAsking query ∧ .and ∉ Lexeme.scan query := by
  constructor
  · refine .of_lexemes (fun payload member => ?_) closed
    rcases lexemes _ member with ⟨content, same⟩ | same <;> cases same
  · intro member
    rcases lexemes _ member with ⟨content, same⟩ | same <;> cases same

/-- A query that asks only closes its quotes outside exclusions. -/
theorem IsAsking.closesQuotes (asking : IsAsking query) : Piece.ClosesQuotes true query :=
  Lexeme.closesQuotes_of_even asking.excludesNothing asking.closed

namespace Exclusions

theorem remainder_ofQuery (query : Text) :
    (ofQuery query).remainder = collapsed (Lexeme.read Lexeme.remainder true query) := rfl

/-- What is left of a query excludes nothing. -/
theorem isPlain_remainder (query : Text) : Place.start.IsPlain (ofQuery query).remainder :=
  Place.isPlain_collapsed.mpr (Lexeme.marked_read_remainder true query).1

/-- Of a query that closes its quotes, a text can be left. -/
theorem isRemainder_of_closesQuotes (closes : Piece.ClosesQuotes true query) :
    IsRemainder (ofQuery query).remainder := by
  refine ⟨isPlain_remainder query, ?_, isTrimmed_collapsed _⟩
  rw [remainder_ofQuery, Place.count_collapsed (by decide)]
  exact Lexeme.even_count_read_remainder closes

/-- Of a query that asks only, a text can be left. -/
theorem isRemainder_remainder (asking : IsAsking query) :
    IsRemainder (ofQuery query).remainder :=
  isRemainder_of_closesQuotes asking.closesQuotes

/-- A query of which something is left is not blank. -/
theorem isBlankText_of_remainder (nonempty : (ofQuery query).remainder ≠ []) :
    isBlankText query = false := by
  rw [Ne, remainder_ofQuery, collapsed_eq_nil_iff, Bool.not_eq_true, isBlankText,
    List.all_eq_false] at nonempty
  obtain ⟨character, inside, visible⟩ := nonempty
  obtain ⟨lexeme, isLexeme, leaves⟩ := List.mem_flatMap.mp inside
  refine List.all_eq_false.mpr ⟨character, ?_, visible⟩
  apply Lexeme.mem_of_mem_literal (List.mem_flatMap.mpr ⟨lexeme, isLexeme, ?_⟩)
  cases lexeme with
  | text content => exact leaves
  | and => exact leaves
  | or => exact leaves
  | exclusion payload =>
      rw [List.mem_singleton.mp leaves] at visible
      exact absurd isBlank_space visible

/-- What is left of a query has the operators of the query. -/
theorem mem_marked_remainder {character : Char} (visible : isBlank character = false)
    {operates : Bool} :
    (character, operates) ∈ Place.start.marked (ofQuery query).remainder ↔
      (character, operates) ∈ (Lexeme.scan query).flatMap Lexeme.leaves := by
  rw [remainder_ofQuery, Place.mem_marked_collapsed visible, ← Lexeme.read_eq,
    ← (Lexeme.marked_read_remainder true query).2]
  rfl

/-- What is left of a query without `+` has none. -/
theorem and_not_mem_marked_remainder (noAnd : .and ∉ Lexeme.scan query) :
    ('+', true) ∉ Place.start.marked (ofQuery query).remainder := by
  rw [mem_marked_remainder (by decide)]
  intro member
  obtain ⟨lexeme, isLexeme, inside⟩ := List.mem_flatMap.mp member
  cases lexeme with
  | text content =>
      obtain ⟨character, -, same⟩ := List.mem_map.mp inside
      cases same
  | and => exact noAnd isLexeme
  | or => cases List.mem_singleton.mp inside
  | exclusion payload => cases List.mem_singleton.mp inside

/-! ## Texts around an operator -/

/-- What lexemes say on both sides of an operator between spaces. -/
theorem read_around {Mark : Type} {reading : Lexeme → List Mark}
    (additive : Lexeme.IsAdditive reading) (asking : IsAsking before)
    (isSign : Lexeme.IsSign lexeme sign) (after : Text) :
    Lexeme.read reading true (before ++ ' ' :: sign :: ' ' :: after) =
      Lexeme.read reading true before ++ (reading (.text [' ']) ++
        (reading lexeme ++ (reading (.text [' ']) ++ Lexeme.read reading true after))) := by
  have space (rest : Text) : Lexeme.read reading true (' ' :: rest) =
      reading (.text [' ']) ++ Lexeme.read reading true rest :=
    Lexeme.read_plain additive (by decide) (by decide) (by decide) (by decide) rest
  rw [Lexeme.read_append additive asking.closesQuotes (by decide), space,
    Lexeme.read_sign isSign, space]

/-- Queries that ask only still do when they are joined with an operator. -/
theorem isAsking_around (askingBefore : IsAsking before) (askingAfter : IsAsking after)
    (isSign : Lexeme.IsSign lexeme sign) : IsAsking (before ++ ' ' :: sign :: ' ' :: after) := by
  constructor
  · rw [read_around Lexeme.isAdditive_payloads askingBefore isSign, askingBefore.excludesNothing,
      askingAfter.excludesNothing, (Lexeme.marked_sign isSign).1]
    rfl
  · have noQuote : sign ≠ '"' := by cases isSign <;> decide
    rw [List.count_append, List.count_cons_of_ne (by decide), List.count_cons_of_ne noQuote,
      List.count_cons_of_ne (by decide)]
    exact askingBefore.closed.add askingAfter.closed

/-- Of two queries joined with an operator, what is left of both is left, joined with it. -/
theorem remainder_around (asking : IsAsking before) (isSign : Lexeme.IsSign lexeme sign)
    (beforeNonempty : (ofQuery before).remainder ≠ [])
    (afterNonempty : (ofQuery after).remainder ≠ []) :
    (ofQuery (before ++ ' ' :: sign :: ' ' :: after)).remainder =
      (ofQuery before).remainder ++ ' ' :: sign :: ' ' :: (ofQuery after).remainder := by
  have visible : isBlank sign = false := by cases isSign <;> decide
  rw [Ne, remainder_ofQuery, collapsed_eq_nil_iff, Bool.not_eq_true] at beforeNonempty afterNonempty
  rw [remainder_ofQuery, read_around Lexeme.isAdditive_remainder asking isSign,
    (Lexeme.marked_sign isSign).2.1]
  exact collapsed_around visible beforeNonempty afterNonempty

/-- Of queries joined with an operator, what is left of each of them is left, joined with it. -/
theorem remainder_joined (isSign : Lexeme.IsSign lexeme sign) {queries : List Text}
    (nonempty : queries ≠ [])
    (proper : ∀ query ∈ queries, IsAsking query ∧ (ofQuery query).remainder ≠ []) :
    IsAsking (joined [' ', sign, ' '] queries) ∧
      (ofQuery (joined [' ', sign, ' '] queries)).remainder =
        joined [' ', sign, ' '] (queries.map fun query => (ofQuery query).remainder) := by
  induction queries with
  | nil => exact absurd rfl nonempty
  | cons query rest ih =>
      obtain ⟨⟨asking, asksFor⟩, behind⟩ := List.forall_mem_cons.mp proper
      by_cases last : rest = []
      · subst last
        rw [List.map_singleton, joined_singleton, joined_singleton]
        exact ⟨asking, rfl⟩
      · obtain ⟨restAsking, restSame⟩ := ih last behind
        have mapped : (rest.map fun query => (ofQuery query).remainder) ≠ [] :=
          fun none => last (List.map_eq_nil_iff.mp none)
        have restNonempty : (ofQuery (joined [' ', sign, ' '] rest)).remainder ≠ [] := by
          rw [restSame, Ne, joined_eq_nil_iff]
          · exact mapped
          · intro text member
            obtain ⟨other, isOther, rfl⟩ := List.mem_map.mp member
            exact (behind other isOther).2
        have split : joined [' ', sign, ' '] (query :: rest) =
            query ++ ' ' :: sign :: ' ' :: joined [' ', sign, ' '] rest := by
          rw [joined_cons last, List.append_assoc]
          rfl
        rw [split, List.map_cons, joined_cons mapped]
        refine ⟨isAsking_around asking restAsking isSign, ?_⟩
        rw [remainder_around asking isSign asksFor restNonempty, restSame, List.append_assoc]
        rfl

/-! ## Exclusions behind a query -/

/-- A text that excludes only, set off by white space. -/
structure OnlyExcludes (suffix : Text) : Prop where
  setOff : ∀ first ∈ suffix.head?, isBlank first = true
  excludes : ∀ lexeme ∈ Lexeme.scan suffix,
    (∃ payload, lexeme = .exclusion payload) ∨
      ∃ content, lexeme = .text content ∧ isBlankText content = true

theorem onlyExcludes_nil : OnlyExcludes [] := by
  constructor
  · intro first isFirst
    cases isFirst
  · intro lexeme member
    rw [Lexeme.scan, Piece.scan_nil] at member
    cases member

/-- What lexemes exclude, in normal form. -/
def excludedWords (lexeme : Lexeme) : List Text :=
  lexeme.excluded?.toList

/-- A query excludes the words that are read from its exclusions. -/
theorem excluded_ofQuery (query : Text) :
    (ofQuery query).excluded = .ofTexts (Lexeme.read excludedWords true query) :=
  congrArg TextSet.ofTexts (List.filterMap_eq_flatMap_toList _ _)

theorem isAdditive_excludedWords : Lexeme.IsAdditive excludedWords := fun _ _ => rfl

/-- Where nothing is excluded, no words are. -/
theorem read_excludedWords_eq_nil
    (excludesNothing : Lexeme.read Lexeme.payloads true query = []) :
    Lexeme.read excludedWords true query = [] := by
  refine List.flatMap_eq_nil_iff.mpr fun lexeme member => ?_
  have nothing := List.flatMap_eq_nil_iff.mp excludesNothing lexeme member
  cases lexeme with
  | text content => rfl
  | and => rfl
  | or => rfl
  | exclusion payload => cases nothing

theorem read_excludedWords_of_isAsking (asking : IsAsking query) :
    Lexeme.read excludedWords true query = [] :=
  read_excludedWords_eq_nil asking.excludesNothing

/-- Of a text that excludes only, white space is left. -/
theorem isBlankText_remainder (only : OnlyExcludes suffix) :
    isBlankText (Lexeme.read Lexeme.remainder true suffix) = true := by
  rw [isBlankText, List.all_eq_true]
  intro character member
  obtain ⟨lexeme, isLexeme, inside⟩ := List.mem_flatMap.mp member
  rcases only.excludes lexeme isLexeme with ⟨payload, rfl⟩ | ⟨content, rfl, white⟩
  · rw [List.mem_singleton.mp inside]
    exact isBlank_space
  · exact List.all_eq_true.mp white character inside

/-- Exclusions behind a query that asks only leave what it asks for as it is. -/
theorem ofQuery_append (asking : IsAsking query) (only : OnlyExcludes suffix) :
    ofQuery (query ++ suffix) = ⟨(ofQuery query).remainder, (ofQuery suffix).excluded⟩ := by
  have split {Mark : Type} {reading : Lexeme → List Mark} (additive : Lexeme.IsAdditive reading) :
      Lexeme.read reading true (query ++ suffix) =
        Lexeme.read reading true query ++ Lexeme.read reading true suffix := by
    cases suffix with
    | nil => rw [Lexeme.read_nil, List.append_nil, List.append_nil]
    | cons first rest =>
        exact Lexeme.read_append additive asking.closesQuotes
          (Place.endsToken_of_isBlank (only.setOff first rfl)) rest
  have remainder : (ofQuery (query ++ suffix)).remainder = (ofQuery query).remainder := by
    rw [remainder_ofQuery, split Lexeme.isAdditive_remainder,
      collapsed_append_of_blank (isBlankText_remainder only), remainder_ofQuery]
  have excluded : (ofQuery (query ++ suffix)).excluded = (ofQuery suffix).excluded := by
    rw [excluded_ofQuery, split isAdditive_excludedWords, read_excludedWords_of_isAsking asking,
      List.nil_append, excluded_ofQuery]
  rw [← remainder, ← excluded]

/-- A `+` behind a query that closes its quotes is left behind what is left of the query. -/
theorem ofQuery_append_and (closes : Piece.ClosesQuotes true query)
    (nonempty : (ofQuery query).remainder ≠ []) :
    ofQuery (query ++ [' ', '+']) =
      ⟨(ofQuery query).remainder ++ [' ', '+'], (ofQuery query).excluded⟩ := by
  have split {Mark : Type} {reading : Lexeme → List Mark} (additive : Lexeme.IsAdditive reading) :
      Lexeme.read reading true (query ++ [' ', '+']) =
        Lexeme.read reading true query ++ (reading (.text [' ']) ++ reading .and) := by
    rw [Lexeme.read_append additive closes (by decide),
      Lexeme.read_plain additive (by decide) (by decide) (by decide) (by decide),
      Lexeme.read_sign .and, Lexeme.read_nil, List.append_nil]
  rw [Ne, remainder_ofQuery, collapsed_eq_nil_iff, Bool.not_eq_true] at nonempty
  have remainder : (ofQuery (query ++ [' ', '+'])).remainder =
      (ofQuery query).remainder ++ [' ', '+'] := by
    rw [remainder_ofQuery, split Lexeme.isAdditive_remainder]
    exact collapsed_append_sign (by decide) nonempty
  have excluded : (ofQuery (query ++ [' ', '+'])).excluded = (ofQuery query).excluded := by
    rw [excluded_ofQuery, split isAdditive_excludedWords, excluded_ofQuery]
    exact congrArg TextSet.ofTexts (List.append_nil _)
  rw [← remainder, ← excluded]

/-- The text that excludes each of some words. -/
def written (words : List Text) : Text :=
  words.flatMap fun word => [' ', '#'] ++ word

/-- A word that can stand bare behind a mark of exclusion. -/
structure IsBare (word : Text) : Prop where
  whole : ∀ character ∈ word, Piece.endsToken character = false
  noPhrase : word.head? ≠ some '"'

/-- A word is whole where a look at its characters shows it. -/
theorem whole_of_all {word : Text} (whole : word.all (!Piece.endsToken ·) = true) :
    ∀ character ∈ word, Piece.endsToken character = false := by
  intro character member
  have passes := List.all_eq_true.mp whole character member
  rwa [Bool.not_eq_true'] at passes

/-- Each of some written exclusions is read behind the space before it. -/
theorem read_written {Mark : Type} {reading : Lexeme → List Mark}
    (additive : Lexeme.IsAdditive reading) {words : List Text}
    (bare : ∀ word ∈ words, IsBare word) :
    Lexeme.read reading true (written words) = words.flatMap fun word =>
      reading (.text [' ']) ++ if word = [] then [] else reading (.exclusion word) := by
  induction words with
  | nil => exact Lexeme.read_nil
  | cons word rest ih =>
      obtain ⟨here, behind⟩ := List.forall_mem_cons.mp bare
      have ends : ∀ next ∈ (written rest).head?, Piece.endsToken next = true := by
        intro next isNext
        cases rest with
        | nil => cases isNext
        | cons other more =>
            obtain rfl : ' ' = next := Option.some.inj isNext
            rfl
      rw [List.flatMap_cons, ← ih behind, written, List.flatMap_cons]
      change Lexeme.read reading true (' ' :: '#' :: (word ++ written rest)) = _
      rw [Lexeme.read_plain additive (by decide) (by decide) (by decide) (by decide),
        List.append_assoc]
      refine congrArg (reading (.text [' ']) ++ ·) ?_
      by_cases lone : word = []
      · rw [if_pos lone, lone, List.nil_append, List.nil_append, isBlank_space,
          Lexeme.read_loneMark ends]
      · rw [if_neg lone, isBlank_space,
          Lexeme.read_exclusion lone here.noPhrase here.whole ends]

/-- What a lexeme asks for, as far as it can be seen. -/
def asked : Lexeme → Text
  | .text content => content.filter fun character => !isBlank character
  | .and => ['+']
  | .or => ['|']
  | .exclusion _ => []

theorem isAdditive_asked : Lexeme.IsAdditive asked := fun first second =>
  List.filter_append first second

/-- Written exclusions exclude only. -/
theorem onlyExcludes_written {words : List Text} (bare : ∀ word ∈ words, IsBare word) :
    OnlyExcludes (written words) := by
  constructor
  · intro first isFirst
    cases words with
    | nil => cases isFirst
    | cons word rest =>
        obtain rfl : ' ' = first := Option.some.inj isFirst
        exact isBlank_space
  · have nothing : (Lexeme.scan (written words)).flatMap asked = [] := by
      rw [← Lexeme.read_eq, read_written isAdditive_asked bare, List.flatMap_eq_nil_iff]
      intro word member
      split <;> rfl
    intro lexeme member
    have none := List.flatMap_eq_nil_iff.mp nothing lexeme member
    cases lexeme with
    | text content =>
        refine .inr ⟨content, rfl, List.all_eq_true.mpr fun character inside => ?_⟩
        simpa using List.filter_eq_nil_iff.mp none character inside
    | and => cases none
    | or => cases none
    | exclusion payload => exact .inl ⟨payload, rfl⟩

/-- A word or phrase excludes its normal form, if that is not empty. -/
theorem mem_excludedWords_exclusion {payload text : Text} :
    text ∈ excludedWords (.exclusion payload) ↔ text ≠ [] ∧ normalize payload = text := by
  rw [excludedWords, Lexeme.excluded?]
  by_cases mute : normalize payload = []
  · rw [mute]
    exact iff_of_false List.not_mem_nil fun same => same.1 same.2.symm
  · simp only [List.isEmpty_eq_false_iff.mpr mute, Bool.false_eq_true, ↓reduceIte,
      Option.toList_some, List.mem_singleton]
    exact ⟨fun same => ⟨same ▸ mute, same.symm⟩, fun same => same.2.symm⟩

/-- Written exclusions exclude the normal forms of the words, as far as these are not empty. -/
theorem mem_excluded_written {words : List Text} (bare : ∀ word ∈ words, IsBare word)
    {text : Text} :
    text ∈ (ofQuery (written words)).excluded.toTexts ↔
      text ≠ [] ∧ ∃ word ∈ words, normalize word = text := by
  rw [excluded_ofQuery, TextSet.mem_toTexts_ofTexts, read_written isAdditive_excludedWords bare,
    List.mem_flatMap]
  have ofWord (word : Text) :
      text ∈ excludedWords (.text [' ']) ++
          (if word = [] then [] else excludedWords (.exclusion word)) ↔
        text ≠ [] ∧ normalize word = text := by
    change text ∈ (if word = [] then [] else excludedWords (.exclusion word)) ↔ _
    by_cases empty : word = []
    · rw [if_pos empty, empty]
      refine iff_of_false List.not_mem_nil fun same => same.1 ?_
      rw [← same.2]
      rfl
    · rw [if_neg empty, mem_excludedWords_exclusion]
  simp only [ofWord]
  exact ⟨fun ⟨word, member, nonempty, same⟩ => ⟨nonempty, word, member, same⟩,
    fun ⟨nonempty, word, member, same⟩ => ⟨word, member, nonempty, same⟩⟩

end Exclusions

end TableSearch
