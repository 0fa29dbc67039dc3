import TableSearch.Proofs.Query.Place
import TableSearch.Proofs.Query.Scan
import TableSearch.Query.Alternatives
import TableSearch.Query.Exclusions

/-!
# What the lexemes of a query say

A reading takes something from each lexeme, and of plain text it takes from each part what it takes
from the whole. So a reading does not see where two pieces of plain text meet. Main statements:
behind a text with closed quotes the scan begins anew at a sign that ends tokens, and the rest of a
query without its exclusions is read by places alone.
-/

namespace TableSearch.Lexeme

open Text

variable {Mark : Type} {reading : Lexeme → List Mark} {atStart : Bool}

/-- What a reading takes from the lexemes of a text. -/
def read (reading : Lexeme → List Mark) (atStart : Bool) (text : Text) : List Mark :=
  ((Piece.scan atStart text).filterMap Piece.lexeme?).flatMap reading

/-- A reading that takes from plain text what it takes from its parts. -/
def IsAdditive (reading : Lexeme → List Mark) : Prop :=
  ∀ first second, reading (.text (first ++ second)) =
    reading (.text first) ++ reading (.text second)

/-- The payload of an exclusion. -/
def payloads : Lexeme → List Text
  | .exclusion payload => [payload]
  | _ => []

/-- The characters that a lexeme stands for, each with whether it is an operator. -/
def marked : Lexeme → List (Char × Bool)
  | .text content => content.map fun character => (character, false)
  | .and => [('+', true)]
  | .or => [('|', true)]
  | .exclusion _ => []

/-- The characters that a lexeme leaves in a query without its exclusions, each with whether it is
an operator. -/
def leaves : Lexeme → List (Char × Bool)
  | .exclusion _ => [(' ', false)]
  | lexeme => lexeme.marked

theorem isAdditive_payloads : IsAdditive payloads := fun _ _ => rfl

theorem isAdditive_marked : IsAdditive marked := fun _ _ => List.map_append

theorem isAdditive_leaves : IsAdditive leaves := fun _ _ => List.map_append

theorem isAdditive_remainder : IsAdditive remainder := fun _ _ => rfl

/-! ## Reading a text from its start -/

theorem read_eq (reading : Lexeme → List Mark) (query : Text) :
    read reading true query = (scan query).flatMap reading := rfl

/-- A text has no payloads where it excludes nothing. -/
theorem read_payloads_eq_nil_iff {query : Text} :
    read payloads true query = [] ↔ ∀ payload, .exclusion payload ∉ scan query := by
  rw [read_eq, List.flatMap_eq_nil_iff]
  constructor
  · intro nothing payload member
    cases nothing _ member
  · intro excludesNothing lexeme member
    cases lexeme with
    | text content => rfl
    | and => rfl
    | or => rfl
    | exclusion payload => exact absurd member (excludesNothing payload)

theorem read_nil : read reading atStart [] = [] := by
  rw [read, Piece.scan]
  rfl

/-- A reading does not see where two pieces of plain text meet. -/
theorem flatMap_prependText (additive : IsAdditive reading) (content : Text)
    (pieces : List Piece) :
    ((Piece.prependText content pieces).filterMap Piece.lexeme?).flatMap reading =
      reading (.text content) ++ (pieces.filterMap Piece.lexeme?).flatMap reading := by
  rcases pieces with _ | ⟨first, rest⟩
  · rfl
  · cases first with
    | text more =>
        change reading (.text (content ++ more)) ++ _ = _ ++ (reading (.text more) ++ _)
        rw [additive, List.append_assoc]
    | and => rfl
    | or => rfl
    | loneMark => rfl
    | exclusion form payload => rfl

/-- A quotation is plain text. -/
theorem read_quotation (additive : IsAdditive reading) {run : Text}
    (noQuote : ∀ character ∈ run, character ≠ '"') (rest : Text) :
    read reading atStart ('"' :: (run ++ '"' :: rest)) =
      reading (.text ('"' :: (run ++ ['"']))) ++ read reading false rest := by
  rw [read, Piece.scan_quotation noQuote]
  exact flatMap_prependText additive _ _

/-- Behind a quote that nothing closes all is plain text. -/
theorem read_unclosed {run : Text} (noQuote : ∀ character ∈ run, character ≠ '"') :
    read reading atStart ('"' :: run) = reading (.text ('"' :: run)) := by
  rw [read, Piece.scan_unclosed noQuote]
  exact List.append_nil _

/-- An operator is read for itself, and a token starts behind it. -/
theorem read_sign {lexeme : Lexeme} {sign : Char} (isSign : IsSign lexeme sign) (rest : Text) :
    read reading atStart (sign :: rest) = reading lexeme ++ read reading true rest := by
  cases isSign with
  | and =>
      rw [read, Piece.scan_and]
      rfl
  | or =>
      rw [read, Piece.scan_or]
      rfl

/-- The lexeme of an operator excludes nothing and is left of a query, marked as an operator. -/
theorem marked_sign {lexeme : Lexeme} {sign : Char} (isSign : IsSign lexeme sign) :
    payloads lexeme = [] ∧ remainder lexeme = [sign] ∧ marked lexeme = [(sign, true)] := by
  cases isSign <;> exact ⟨rfl, rfl, rfl⟩

/-- Outside quotes the sign of an operator is that operator. -/
theorem placed_sign {lexeme : Lexeme} {sign : Char} (isSign : IsSign lexeme sign) {place : Place}
    (unquoted : place ≠ .quoted) (rest : Text) :
    (place.IsPlain (sign :: rest) ↔ Place.start.IsPlain rest) ∧
      place.marked (sign :: rest) = (sign, true) :: Place.start.marked rest := by
  have operates : place.isOperator sign = true := by
    cases isSign <;> simp [Place.isOperator, unquoted]
  have ends : Piece.endsToken sign = true := by cases isSign <;> rfl
  have noMark : sign ≠ '#' := by cases isSign <;> decide
  rw [Place.isPlain_cons, Place.marked_cons, Place.next_of_endsToken unquoted ends, operates]
  exact ⟨and_iff_right fun mark => noMark mark.2, rfl⟩

/-- A character without a meaning of its own is plain text. -/
theorem read_plain (additive : IsAdditive reading) {character : Char} (noQuote : character ≠ '"')
    (noAnd : character ≠ '+') (noOr : character ≠ '|') (noMark : ¬(character = '#' ∧ atStart))
    (rest : Text) :
    read reading atStart (character :: rest) =
      reading (.text [character]) ++ read reading (isBlank character) rest := by
  rw [read, Piece.scan_plain noQuote noAnd noOr noMark]
  exact flatMap_prependText additive _ _

/-- A mark with white space, an operator or nothing behind it says nothing. -/
theorem read_loneMark {rest : Text} (ends : ∀ next ∈ rest.head?, Piece.endsToken next = true) :
    read reading true ('#' :: rest) = read reading true rest := by
  rw [read, Piece.scan_loneMark ends]
  rfl

/-- A mark before a word excludes the word. -/
theorem read_exclusion {word rest : Text} (nonempty : word ≠ []) (noPhrase : word.head? ≠ some '"')
    (whole : ∀ character ∈ word, Piece.endsToken character = false)
    (ends : ∀ next ∈ rest.head?, Piece.endsToken next = true) :
    read reading true ('#' :: (word ++ rest)) =
      reading (.exclusion word) ++ read reading true rest := by
  rw [read, Piece.scan_word nonempty noPhrase whole ends]
  rfl

/-- A mark before a quotation excludes the phrase in it. -/
theorem read_phrase {run : Text} (noQuote : ∀ character ∈ run, character ≠ '"') (rest : Text) :
    read reading true ('#' :: '"' :: (run ++ '"' :: rest)) =
      reading (.exclusion run) ++ read reading true rest := by
  rw [read, Piece.scan_phrase noQuote]
  rfl

/-- A phrase that is not closed is excluded to the end of the query. -/
theorem read_openPhrase {run : Text} (noQuote : ∀ character ∈ run, character ≠ '"') :
    read reading true ('#' :: '"' :: run) = reading (.exclusion run) := by
  rw [read, Piece.scan_openPhrase noQuote]
  exact List.append_nil _

/-! ## Texts side by side -/

/-- A sign that ends tokens is read in the same way at the start of a token and inside one. -/
theorem read_of_endsToken (additive : IsAdditive reading) {sign : Char}
    (ends : Piece.endsToken sign = true) (rest : Text) :
    read reading atStart (sign :: rest) = read reading true (sign :: rest) := by
  by_cases isAnd : sign = '+'
  · rw [isAnd, read_sign .and, read_sign .and]
  · by_cases isOr : sign = '|'
    · rw [isOr, read_sign .or, read_sign .or]
    · have noQuote : sign ≠ '"' := Place.ne_quote_of_endsToken ends
      have noMark : sign ≠ '#' := by
        rintro rfl
        cases ends
      rw [read_plain additive noQuote isAnd isOr fun mark => noMark mark.1,
        read_plain additive noQuote isAnd isOr fun mark => noMark mark.1]

/-- A text that closes its quotes is read apart from what stands behind it, where that begins with a
sign that ends tokens. -/
theorem read_append (additive : IsAdditive reading) {before : Text}
    (closes : Piece.ClosesQuotes atStart before) {sign : Char}
    (ends : Piece.endsToken sign = true) (after : Text) :
    read reading atStart (before ++ sign :: after) =
      read reading atStart before ++ read reading true (sign :: after) := by
  -- Behind a lone mark or an excluded word, `sign` ends the token as the end of the text did.
  have endsBefore {rest : Text} (ended : ∀ next ∈ rest.head?, Piece.endsToken next = true) :
      ∀ next ∈ (rest ++ sign :: after).head?, Piece.endsToken next = true := by
    intro next isNext
    cases rest with
    | nil => exact Option.some.inj isNext ▸ ends
    | cons first more => exact ended next isNext
  induction atStart, before using Piece.scanInduction with
  | nil atStart => rw [List.nil_append, read_nil, read_of_endsToken additive ends, List.nil_append]
  | quotation atStart run rest noQuote ih =>
      rw [Piece.closesQuotes_quotation noQuote] at closes
      rw [List.cons_append, List.append_assoc, List.cons_append, read_quotation additive noQuote,
        read_quotation additive noQuote, ih closes, List.append_assoc]
  | unclosed atStart run noQuote => exact absurd closes (Piece.not_closesQuotes_unclosed noQuote)
  | operator atStart lexeme sign' rest isSign ih =>
      rw [Piece.closesQuotes_sign isSign] at closes
      rw [List.cons_append, read_sign isSign, read_sign isSign, ih closes, List.append_assoc]
  | loneMark rest lone ih =>
      rw [Piece.closesQuotes_loneMark lone] at closes
      rw [List.cons_append, read_loneMark (endsBefore lone), read_loneMark lone, ih closes]
  | word word rest nonempty noPhrase whole ended ih =>
      rw [Piece.closesQuotes_word nonempty noPhrase whole ended] at closes
      rw [List.cons_append, List.append_assoc,
        read_exclusion nonempty noPhrase whole (endsBefore ended),
        read_exclusion nonempty noPhrase whole ended, ih closes, List.append_assoc]
  | phrase run rest noQuote ih =>
      rw [Piece.closesQuotes_phrase noQuote] at closes
      rw [List.cons_append, List.cons_append, List.append_assoc, List.cons_append,
        read_phrase noQuote, read_phrase noQuote, ih closes, List.append_assoc]
  | openPhrase run noQuote => exact absurd closes (Piece.not_closesQuotes_openPhrase noQuote)
  | plain atStart character rest noQuote noAnd noOr noMark ih =>
      rw [Piece.closesQuotes_plain noQuote noAnd noOr noMark] at closes
      rw [List.cons_append, read_plain additive noQuote noAnd noOr noMark,
        read_plain additive noQuote noAnd noOr noMark, ih closes, List.append_assoc]

/-- A text that excludes nothing closes its quotes where they come in pairs. -/
theorem closesQuotes_of_even {text : Text} (excludesNothing : read payloads atStart text = [])
    (paired : Even (text.count '"')) : Piece.ClosesQuotes atStart text := by
  induction atStart, text using Piece.scanInduction with
  | nil atStart =>
      rw [Piece.ClosesQuotes, Piece.scan_nil]
      exact List.forall_mem_nil _
  | quotation atStart run rest noQuote ih =>
      have restPaired : Even (rest.count '"') := by
        have regroup : '"' :: (run ++ '"' :: rest) = '"' :: (run ++ ['"']) ++ rest := by simp
        rw [regroup, List.count_append, Nat.even_add] at paired
        exact paired.mp (Piece.even_count_quotation noQuote)
      rw [read_quotation isAdditive_payloads noQuote] at excludesNothing
      exact (Piece.closesQuotes_quotation noQuote rest).mpr (ih excludesNothing restPaired)
  | unclosed atStart run noQuote =>
      rw [List.count_cons_self, List.count_eq_zero.mpr fun member => noQuote '"' member rfl]
        at paired
      exact absurd paired (by decide)
  | operator atStart lexeme sign rest isSign ih =>
      have restPaired : Even (rest.count '"') := by
        cases isSign <;> simpa using paired
      rw [read_sign isSign, (marked_sign isSign).1] at excludesNothing
      exact (Piece.closesQuotes_sign isSign rest).mpr (ih excludesNothing restPaired)
  | loneMark rest lone ih =>
      have restPaired : Even (rest.count '"') := by simpa using paired
      rw [read_loneMark lone] at excludesNothing
      exact (Piece.closesQuotes_loneMark lone).mpr (ih excludesNothing restPaired)
  | word word rest nonempty noPhrase whole ended =>
      rw [read_exclusion nonempty noPhrase whole ended] at excludesNothing
      cases excludesNothing
  | phrase run rest noQuote =>
      rw [read_phrase noQuote] at excludesNothing
      cases excludesNothing
  | openPhrase run noQuote =>
      rw [read_openPhrase noQuote] at excludesNothing
      cases excludesNothing
  | plain atStart character rest noQuote noAnd noOr noMark ih =>
      rw [List.count_cons_of_ne noQuote] at paired
      rw [read_plain isAdditive_payloads noQuote noAnd noOr noMark] at excludesNothing
      exact (Piece.closesQuotes_plain noQuote noAnd noOr noMark rest).mpr
        (ih excludesNothing paired)

/-! ## Reading by places -/

/-- Besides the operators, white space alone ends a token. -/
theorem endsToken_eq_isBlank {character : Char} (noAnd : character ≠ '+')
    (noOr : character ≠ '|') : Piece.endsToken character = isBlank character := by
  rw [Piece.endsToken, decide_eq_false noAnd, decide_eq_false noOr, Bool.or_false, Bool.or_false]

/-- The rest of a text without its exclusions is plain, and its operators are those of the text. -/
theorem marked_read_remainder (atStart : Bool) (text : Text) :
    (Place.ofStart atStart).IsPlain (read remainder atStart text) ∧
      (Place.ofStart atStart).marked (read remainder atStart text) = read leaves atStart text := by
  have unquoted := Place.ofStart_ne_quoted
  -- A space stands for an exclusion, and a token starts behind either.
  have behindExclusion {left : Text} {marks : List (Char × Bool)}
      (ih : Place.start.IsPlain left ∧ Place.start.marked left = marks) :
      Place.start.IsPlain (' ' :: left) ∧
        Place.start.marked (' ' :: left) = (' ', false) :: marks := by
    rw [Place.isPlain_cons, Place.marked_cons, ← ih.2]
    exact ⟨⟨fun mark => absurd mark.2 (by decide), ih.1⟩, rfl⟩
  induction atStart, text using Piece.scanInduction with
  | nil atStart =>
      rw [read_nil, read_nil]
      exact ⟨Place.isPlain_nil _, rfl⟩
  | quotation atStart run rest noQuote ih =>
      obtain ⟨plain, same⟩ := ih
      rw [read_quotation isAdditive_remainder noQuote, read_quotation isAdditive_leaves noQuote,
        ← same]
      have regroup : remainder (.text ('"' :: (run ++ ['"']))) ++ read remainder false rest =
          '"' :: (run ++ '"' :: read remainder false rest) := by
        simp only [remainder, List.cons_append, List.append_assoc, List.nil_append]
      rw [regroup, Place.isPlain_quotation (unquoted _) noQuote,
        Place.marked_quotation (unquoted _) noQuote]
      exact ⟨plain, rfl⟩
  | unclosed atStart run noQuote =>
      rw [read_unclosed noQuote, read_unclosed noQuote]
      change (Place.ofStart atStart).IsPlain ('"' :: run) ∧
        (Place.ofStart atStart).marked ('"' :: run) = _
      rw [Place.isPlain_cons, Place.marked_cons, Place.next_quote (unquoted _),
        Place.marked_quoted noQuote, Place.isOperator_eq_false (by decide) (by decide)]
      exact ⟨⟨fun mark => absurd mark.2 (by decide), Place.isPlain_quoted noQuote⟩, rfl⟩
  | operator atStart lexeme sign rest isSign ih =>
      obtain ⟨plain, same⟩ := ih
      obtain ⟨plainSign, placedSign⟩ := placed_sign isSign (unquoted atStart)
        (read remainder true rest)
      have leavesSign : leaves lexeme = [(sign, true)] := by cases isSign <;> rfl
      rw [read_sign isSign, read_sign isSign, (marked_sign isSign).2.1, leavesSign, ← same,
        List.singleton_append, plainSign, placedSign]
      exact ⟨plain, rfl⟩
  | loneMark rest lone ih =>
      rw [read_loneMark lone, read_loneMark lone]
      exact ih
  | word word rest nonempty noPhrase whole ended ih =>
      rw [read_exclusion nonempty noPhrase whole ended,
        read_exclusion nonempty noPhrase whole ended]
      exact behindExclusion ih
  | phrase run rest noQuote ih =>
      rw [read_phrase noQuote, read_phrase noQuote]
      exact behindExclusion ih
  | openPhrase run noQuote =>
      rw [read_openPhrase noQuote, read_openPhrase noQuote]
      exact behindExclusion ⟨Place.isPlain_nil .start, rfl⟩
  | plain atStart character rest noQuote noAnd noOr noMark ih =>
      obtain ⟨plain, same⟩ := ih
      have ends := endsToken_eq_isBlank noAnd noOr
      rw [read_plain isAdditive_remainder noQuote noAnd noOr noMark,
        read_plain isAdditive_leaves noQuote noAnd noOr noMark, ← same]
      change (Place.ofStart atStart).IsPlain (character :: read remainder _ rest) ∧
        (Place.ofStart atStart).marked (character :: read remainder _ rest) = _
      rw [Place.isPlain_cons, Place.marked_cons, Place.next_of_ne_quote (unquoted _) noQuote, ends,
        Place.isOperator_eq_false noAnd noOr]
      refine ⟨⟨fun mark => noMark ⟨mark.2, ?_⟩, plain⟩, rfl⟩
      cases atStart with
      | true => rfl
      | false => cases mark.1

/-- A plain text excludes nothing and is read by the places of its characters. -/
theorem read_of_isPlain {text : Text} (isPlain : (Place.ofStart atStart).IsPlain text) :
    read payloads atStart text = [] ∧
      read marked atStart text = (Place.ofStart atStart).marked text := by
  have unquoted := Place.ofStart_ne_quoted
  induction atStart, text using Piece.scanInduction with
  | nil atStart =>
      rw [read_nil, read_nil]
      exact ⟨rfl, rfl⟩
  | quotation atStart run rest noQuote ih =>
      rw [Place.isPlain_quotation (unquoted _) noQuote] at isPlain
      obtain ⟨nothing, same⟩ := ih isPlain
      rw [read_quotation isAdditive_payloads noQuote, read_quotation isAdditive_marked noQuote,
        Place.marked_quotation (unquoted _) noQuote, nothing, same]
      exact ⟨rfl, rfl⟩
  | unclosed atStart run noQuote =>
      rw [read_unclosed noQuote, read_unclosed noQuote,
        Place.marked_cons, Place.next_quote (unquoted _), Place.marked_quoted noQuote,
        Place.isOperator_eq_false (by decide) (by decide)]
      exact ⟨rfl, rfl⟩
  | operator atStart lexeme sign rest isSign ih =>
      obtain ⟨payloadsSign, -, markedSign⟩ := marked_sign isSign
      obtain ⟨plainSign, placedSign⟩ := placed_sign isSign (unquoted atStart) rest
      obtain ⟨nothing, same⟩ := ih (plainSign.mp isPlain)
      rw [read_sign isSign, read_sign isSign, payloadsSign, markedSign, placedSign, nothing, same]
      exact ⟨rfl, rfl⟩
  | loneMark rest lone ih => exact absurd ⟨rfl, rfl⟩ (Place.isPlain_cons.mp isPlain).1
  | word => exact absurd ⟨rfl, rfl⟩ (Place.isPlain_cons.mp isPlain).1
  | phrase => exact absurd ⟨rfl, rfl⟩ (Place.isPlain_cons.mp isPlain).1
  | openPhrase => exact absurd ⟨rfl, rfl⟩ (Place.isPlain_cons.mp isPlain).1
  | plain atStart character rest noQuote noAnd noOr noMark ih =>
      have ends := endsToken_eq_isBlank noAnd noOr
      rw [Place.isPlain_cons, Place.next_of_ne_quote (unquoted _) noQuote, ends] at isPlain
      obtain ⟨nothing, same⟩ := ih isPlain.2
      rw [read_plain isAdditive_payloads noQuote noAnd noOr noMark,
        read_plain isAdditive_marked noQuote noAnd noOr noMark, Place.marked_cons,
        Place.next_of_ne_quote (unquoted _) noQuote, ends, nothing, same,
        Place.isOperator_eq_false noAnd noOr]
      exact ⟨rfl, rfl⟩

/-- A plain query excludes nothing and is read by the places of its characters. -/
theorem scan_of_isPlain {query : Text} (isPlain : Place.start.IsPlain query) :
    read payloads true query = [] ∧
      (scan query).flatMap marked = Place.start.marked query :=
  read_of_isPlain (show (Place.ofStart true).IsPlain query from isPlain)

/-! ## Characters -/

/-- Without exclusions, only lone marks are missing from the rest of a text. -/
theorem count_read_remainder {text : Text} (excludesNothing : read payloads atStart text = [])
    {character : Char} (noMark : character ≠ '#') :
    (read remainder atStart text).count character = text.count character := by
  have ofPieces : ∀ pieces : List Piece, (pieces.filterMap Piece.lexeme?).flatMap payloads = [] →
      ((pieces.filterMap Piece.lexeme?).flatMap remainder).count character =
        (pieces.flatMap Piece.source).count character := by
    intro pieces nothing
    induction pieces with
    | nil => rfl
    | cons piece rest ih =>
        rw [List.flatMap_cons, List.count_append]
        cases piece with
        | text content => rw [← ih nothing]; exact List.count_append
        | and => rw [← ih nothing]; exact List.count_append
        | or => rw [← ih nothing]; exact List.count_append
        | loneMark =>
            rw [← ih nothing, Piece.source, List.count_singleton,
              beq_eq_false_iff_ne.mpr noMark.symm, if_neg Bool.false_ne_true, Nat.zero_add]
            rfl
        | exclusion form payload => cases nothing
  have written := ofPieces (Piece.scan atStart text) excludesNothing
  rwa [Piece.source_scan] at written

/-- The rest of a text that closes its quotes has them in pairs. -/
theorem even_count_read_remainder {text : Text} (closes : Piece.ClosesQuotes atStart text) :
    Even ((read remainder atStart text).count '"') := by
  have ofPieces : ∀ pieces : List Piece, (∀ piece ∈ pieces, piece.isClosed = true) →
      Even (((pieces.filterMap Piece.lexeme?).flatMap remainder).count '"') := by
    intro pieces closed
    induction pieces with
    | nil => exact Even.zero
    | cons piece rest ih =>
        obtain ⟨here, behind⟩ := List.forall_mem_cons.mp closed
        cases piece with
        | text content =>
            change Even ((content ++ (rest.filterMap Piece.lexeme?).flatMap remainder).count '"')
            rw [List.count_append]
            exact (of_decide_eq_true here).add (ih behind)
        | and => simpa [Piece.lexeme?, remainder] using ih behind
        | or => simpa [Piece.lexeme?, remainder] using ih behind
        | loneMark => exact ih behind
        | exclusion form payload => simpa [Piece.lexeme?, remainder] using ih behind
  exact ofPieces _ closes

/-- The characters that the lexemes of a query stand for are in the query. -/
theorem mem_of_mem_literal {query : Text} {character : Char}
    (member : character ∈ (scan query).flatMap literal) : character ∈ query := by
  obtain ⟨lexeme, isLexeme, inside⟩ := List.mem_flatMap.mp member
  obtain ⟨piece, isPiece, means⟩ := List.mem_filterMap.mp isLexeme
  rw [← Piece.source_scan true query]
  refine List.mem_flatMap.mpr ⟨piece, isPiece, ?_⟩
  cases piece <;> cases means <;> first | exact inside | cases inside

end TableSearch.Lexeme
