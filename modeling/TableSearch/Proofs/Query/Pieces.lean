import TableSearch.Proofs.Query.Reading

/-!
# The pieces that a query is cut into

Written out, the pieces of a query are the query. Main statements: a query is cut well in one way
only, which is that of the scan, and each piece of a query holds what its kind may hold and stands
where a piece of its kind may stand.
-/

namespace TableSearch.Piece

open Text

variable {atStart : Bool} {place : Place} {content rest : Text} {pieces : List Piece}

/-- Whether a token starts behind pieces: where nothing stands before it, behind white space or an
operator, and behind an excluded phrase. -/
def TokenStarts (before : List Piece) : Prop :=
  (∀ last ∈ (before.flatMap source).getLast?, endsToken last = true) ∨
    ∃ payload, before.getLast? = some (.exclusion .quoted payload)

/-- Whether a token has its end before pieces: at white space, at an operator and where nothing
stands behind it. -/
def TokenEnds (after : List Piece) : Prop :=
  ∀ next ∈ (after.flatMap source).head?, endsToken next = true

/-- What a piece holds, and where it stands among the pieces of a query. -/
def Fits (before : List Piece) (piece : Piece) (after : List Piece) : Prop :=
  match piece with
  | .text content =>
      content ≠ [] ∧
        (∀ first sign rest, content = first ++ sign :: rest → sign = '+' ∨ sign = '|' →
          ¬Even (first.count '"')) ∧
        (¬Even (content.count '"') → after = [])
  | .and => True
  | .or => True
  | .loneMark => TokenStarts before ∧ TokenEnds after
  | .exclusion .bare payload =>
      TokenStarts before ∧ payload ≠ [] ∧ payload.head? ≠ some '"' ∧
        (∀ character ∈ payload, endsToken character = false) ∧ TokenEnds after
  | .exclusion .quoted payload => TokenStarts before ∧ ∀ character ∈ payload, character ≠ '"'
  | .exclusion .unclosed payload =>
      TokenStarts before ∧ (∀ character ∈ payload, character ≠ '"') ∧ after = []

/-- Whether each of some pieces fits between the pieces before it, others included, and those behind
it. -/
def AllFit (others pieces : List Piece) : Prop :=
  ∀ before piece after, pieces = before ++ piece :: after → Fits (others ++ before) piece after

/-- Pieces that a query can be cut into from a place on. -/
inductive WellCut : Place → List Piece → Prop where
  | nil {place : Place} : WellCut place []
  | text {place : Place} {content : Text} {pieces : List Piece} (unquoted : place ≠ .quoted)
      (nonempty : content ≠ []) (isPlain : place.IsPlain content)
      (noOperator : ∀ mark ∈ place.marked content, mark.2 = false)
      (whole : ∀ more, pieces.head? ≠ some (.text more))
      (behind : WellCut (place.behind content) pieces) : WellCut place (.text content :: pieces)
  | and {place : Place} {pieces : List Piece} (unquoted : place ≠ .quoted)
      (behind : WellCut .start pieces) : WellCut place (.and :: pieces)
  | or {place : Place} {pieces : List Piece} (unquoted : place ≠ .quoted)
      (behind : WellCut .start pieces) : WellCut place (.or :: pieces)
  | loneMark {pieces : List Piece} (ends : TokenEnds pieces)
      (behind : WellCut .start pieces) : WellCut .start (.loneMark :: pieces)
  | word {word : Text} {pieces : List Piece} (nonempty : word ≠ [])
      (noPhrase : word.head? ≠ some '"') (whole : ∀ character ∈ word, endsToken character = false)
      (ends : TokenEnds pieces)
      (behind : WellCut .start pieces) : WellCut .start (.exclusion .bare word :: pieces)
  | phrase {run : Text} {pieces : List Piece} (noQuote : ∀ character ∈ run, character ≠ '"')
      (behind : WellCut .start pieces) : WellCut .start (.exclusion .quoted run :: pieces)
  | openPhrase {run : Text} (noQuote : ∀ character ∈ run, character ≠ '"') :
      WellCut .start [.exclusion .unclosed run]

/-! ## The scan cuts well -/

/-- Before a piece that is no plain text, plain text is a piece of its own. -/
theorem prependText_of_whole (whole : ∀ more, pieces.head? ≠ some (.text more)) (content : Text) :
    prependText content pieces = .text content :: pieces := by
  cases pieces with
  | nil => rfl
  | cons first others =>
      cases first with
      | text more => exact absurd rfl (whole more)
      | and => rfl
      | or => rfl
      | loneMark => rfl
      | exclusion form payload => rfl

/-- Pieces stay well cut where plain text is put before them. -/
theorem WellCut.prependText (unquoted : place ≠ .quoted) (nonempty : content ≠ [])
    (isPlain : place.IsPlain content) (noOperator : ∀ mark ∈ place.marked content, mark.2 = false)
    (behind : WellCut (place.behind content) pieces) :
    WellCut place (prependText content pieces) := by
  by_cases whole : ∀ more, pieces.head? ≠ some (.text more)
  · rw [prependText_of_whole whole]
    exact .text unquoted nonempty isPlain noOperator whole behind
  · push Not at whole
    obtain ⟨more, isText⟩ := whole
    obtain ⟨others, rfl⟩ := List.head?_eq_some_iff.mp isText
    generalize isNext : place.behind content = next at behind
    cases behind with
    | text _ _ morePlain moreNoOperator whole behind =>
        subst isNext
        refine .text unquoted (List.append_ne_nil_of_left_ne_nil nonempty more)
          (Place.isPlain_append.mpr ⟨isPlain, morePlain⟩) ?_ whole ?_
        · rw [Place.marked_append]
          exact List.forall_mem_append.mpr ⟨noOperator, moreNoOperator⟩
        · rwa [Place.behind_append]

/-- The scan cuts well. -/
theorem wellCut_scan (atStart : Bool) (text : Text) :
    WellCut (.ofStart atStart) (scan atStart text) := by
  have unquoted := Place.ofStart_ne_quoted
  induction atStart, text using scanInduction with
  | nil atStart =>
      rw [scan_nil]
      exact .nil
  | quotation atStart run rest noQuote ih =>
      rw [scan_quotation noQuote]
      apply WellCut.prependText (unquoted atStart) (List.cons_ne_nil _ _)
      · exact (Place.isPlain_quotation (unquoted atStart) noQuote).mpr (Place.isPlain_nil _)
      · rw [Place.marked_quotation (unquoted atStart) noQuote]
        simp [Place.marked, Place.placed]
      · rwa [Place.behind_quotation (unquoted atStart) noQuote]
  | unclosed atStart run noQuote =>
      rw [scan_unclosed noQuote]
      refine .text (unquoted atStart) (List.cons_ne_nil _ _) ?_ ?_ (by simp) .nil
      · rw [Place.isPlain_cons, Place.next_quote (unquoted atStart)]
        exact ⟨fun mark => absurd mark.2 (by decide), Place.isPlain_quoted noQuote⟩
      · rw [Place.marked_cons, Place.next_quote (unquoted atStart), Place.marked_quoted noQuote,
          Place.isOperator_eq_false (by decide) (by decide)]
        simp
  | operator atStart lexeme sign rest isSign ih =>
      cases isSign with
      | and =>
          rw [scan_and]
          exact .and (unquoted atStart) ih
      | or =>
          rw [scan_or]
          exact .or (unquoted atStart) ih
  | loneMark rest lone ih =>
      rw [scan_loneMark lone]
      exact .loneMark (by rwa [TokenEnds, source_scan]) ih
  | word word rest nonempty noPhrase whole ended ih =>
      rw [scan_word nonempty noPhrase whole ended]
      exact .word nonempty noPhrase whole (by rwa [TokenEnds, source_scan]) ih
  | phrase run rest noQuote ih =>
      rw [scan_phrase noQuote]
      exact .phrase noQuote ih
  | openPhrase run noQuote =>
      rw [scan_openPhrase noQuote]
      exact .openPhrase noQuote
  | plain atStart character rest noQuote noAnd noOr noMark ih =>
      rw [scan_plain noQuote noAnd noOr noMark]
      apply WellCut.prependText (unquoted atStart) (List.cons_ne_nil _ _)
      · refine Place.isPlain_cons.mpr ⟨fun mark => noMark ⟨mark.2, ?_⟩, Place.isPlain_nil _⟩
        cases atStart with
        | true => rfl
        | false => cases mark.1
      · rw [Place.marked_cons, Place.isOperator_eq_false noAnd noOr]
        simp [Place.marked, Place.placed]
      · change WellCut ((Place.ofStart atStart).next character) _
        rwa [Place.next_of_ne_quote (unquoted atStart) noQuote,
          Lexeme.endsToken_eq_isBlank noAnd noOr]

/-! ## Nothing else cuts well -/

/-- Plain text without operators is one piece, up to what a token or a quote goes on with. -/
theorem scan_append (nonempty : content ≠ []) (isPlain : (Place.ofStart atStart).IsPlain content)
    (noOperator : ∀ mark ∈ (Place.ofStart atStart).marked content, mark.2 = false)
    (closes : (Place.ofStart atStart).behind content = .quoted → rest = []) :
    scan atStart (content ++ rest) = prependText content
      (scan (decide ((Place.ofStart atStart).behind content = .start)) rest) := by
  have unquoted := Place.ofStart_ne_quoted
  induction atStart, content using scanInduction with
  | nil => exact absurd rfl nonempty
  | quotation atStart run more noQuote ih =>
      rw [Place.isPlain_quotation (unquoted atStart) noQuote] at isPlain
      rw [Place.marked_quotation (unquoted atStart) noQuote, List.forall_mem_append] at noOperator
      have regroup : '"' :: (run ++ '"' :: more) = '"' :: (run ++ ['"']) ++ more := by simp
      rw [regroup, Place.behind_append, Place.behind_quotation (unquoted atStart) noQuote]
        at closes ⊢
      rw [← regroup, List.cons_append, List.append_assoc, List.cons_append, scan_quotation noQuote]
      by_cases last : more = []
      · subst last
        simp [Place.behind]
      · have sameRest := ih last isPlain noOperator.2 closes
        change scan false (more ++ rest) = prependText more
          (scan (decide (Place.inside.behind more = .start)) rest) at sameRest
        rw [sameRest, prependText_prependText, ← regroup]
  | unclosed atStart run noQuote =>
      have quoted : (Place.ofStart atStart).behind ('"' :: run) = .quoted := by
        change ((Place.ofStart atStart).next '"').behind run = .quoted
        rw [Place.next_quote (unquoted atStart), Place.behind_quoted noQuote]
      rw [closes quoted, List.append_nil, scan_unclosed noQuote, scan_nil]
      rfl
  | operator atStart lexeme sign more isSign =>
      rw [(Lexeme.placed_sign isSign (unquoted atStart) more).2] at noOperator
      cases noOperator _ List.mem_cons_self
  | loneMark => exact absurd ⟨rfl, rfl⟩ (Place.isPlain_cons.mp isPlain).1
  | word => exact absurd ⟨rfl, rfl⟩ (Place.isPlain_cons.mp isPlain).1
  | phrase => exact absurd ⟨rfl, rfl⟩ (Place.isPlain_cons.mp isPlain).1
  | openPhrase => exact absurd ⟨rfl, rfl⟩ (Place.isPlain_cons.mp isPlain).1
  | plain atStart character more noQuote noAnd noOr noMark ih =>
      have place : (Place.ofStart atStart).next character = .ofStart (isBlank character) := by
        rw [Place.next_of_ne_quote (unquoted atStart) noQuote,
          Lexeme.endsToken_eq_isBlank noAnd noOr]
      change ((Place.ofStart atStart).next character).behind more = _ → _ at closes
      rw [Place.isPlain_cons, place] at isPlain
      rw [Place.marked_cons, place] at noOperator
      rw [place] at closes
      change _ = prependText (character :: more)
        (scan (decide (((Place.ofStart atStart).next character).behind more = .start)) rest)
      rw [place, List.cons_append, scan_plain noQuote noAnd noOr noMark]
      by_cases last : more = []
      · subst last
        cases isBlank character <;> rfl
      · rw [ih last isPlain.2 (List.forall_mem_cons.mp noOperator).2 closes,
          prependText_prependText]
        rfl

/-- Nothing is cut behind a quote that is not closed. -/
theorem WellCut.eq_nil (wellCut : WellCut .quoted pieces) : pieces = [] := by
  cases wellCut with
  | nil => rfl
  | text unquoted => exact absurd rfl unquoted
  | and unquoted => exact absurd rfl unquoted
  | or unquoted => exact absurd rfl unquoted

/-- Pieces that are well cut are what a scan cuts their source into. -/
theorem WellCut.scan_source (wellCut : WellCut place pieces) :
    scan (decide (place = .start)) (pieces.flatMap source) = pieces := by
  induction wellCut with
  | nil => exact scan_nil
  | @text place content pieces unquoted nonempty isPlain noOperator whole behind ih =>
      have ofStart := Place.ofStart_decide unquoted
      rw [List.flatMap_cons, source, Piece.scan_append nonempty, ofStart, ih,
        prependText_of_whole whole]
      · rwa [ofStart]
      · rwa [ofStart]
      · rw [ofStart]
        intro quoted
        rw [quoted] at behind
        rw [behind.eq_nil]
        rfl
  | and unquoted behind ih => exact (scan_and _).trans (congrArg _ ih)
  | or unquoted behind ih => exact (scan_or _).trans (congrArg _ ih)
  | loneMark ends behind ih => exact (scan_loneMark ends).trans (congrArg _ ih)
  | word nonempty noPhrase whole ends behind ih =>
      exact (scan_word nonempty noPhrase whole ends).trans (congrArg _ ih)
  | @phrase run pieces noQuote behind ih =>
      have regroup : (Piece.exclusion .quoted run :: pieces).flatMap source =
          '#' :: '"' :: (run ++ '"' :: pieces.flatMap source) := by
        simp [source]
      rw [regroup]
      exact (scan_phrase noQuote _).trans (congrArg _ ih)
  | @openPhrase run noQuote =>
      rw [List.flatMap_singleton]
      exact scan_openPhrase noQuote

/-- A text is cut well in one way only. -/
theorem eq_scan_iff {text : Text} :
    pieces = scan atStart text ↔
      pieces.flatMap source = text ∧ WellCut (.ofStart atStart) pieces := by
  constructor
  · rintro rfl
    exact ⟨source_scan atStart text, wellCut_scan atStart text⟩
  · rintro ⟨rfl, wellCut⟩
    have again := wellCut.scan_source
    cases atStart <;> exact again.symm

/-! ## Each piece fits -/

/-- Pieces all fit where the first fits and those behind it fit behind it. -/
theorem allFit_cons {others after : List Piece} {piece : Piece} :
    AllFit others (piece :: after) ↔
      Fits others piece after ∧ AllFit (others ++ [piece]) after := by
  constructor
  · intro allFit
    refine ⟨?_, ?_⟩
    · have here := allFit [] piece after rfl
      rwa [List.append_nil] at here
    · rintro before later behind rfl
      rw [List.append_assoc]
      exact allFit (piece :: before) later behind rfl
  · rintro ⟨here, allFit⟩ before later behind split
    cases before with
    | nil =>
        obtain ⟨rfl, rfl⟩ := List.cons.inj split
        rwa [List.append_nil]
    | cons first more =>
        obtain ⟨rfl, rest⟩ := List.cons.inj split
        have fits := allFit more later behind rest
        rwa [List.append_assoc] at fits

/-- Behind a piece that ends with white space or an operator a token starts. -/
theorem tokenStarts_of_endsToken (others : List Piece) {piece : Piece} {first : Text} {last : Char}
    (written : piece.source = first ++ [last]) (ends : endsToken last = true) :
    TokenStarts (others ++ [piece]) := by
  refine .inl fun character isLast => ?_
  rw [List.flatMap_append, List.flatMap_singleton, written, ← List.append_assoc,
    List.getLast?_concat, Option.mem_some_iff] at isLast
  exact isLast ▸ ends

/-- A mark stands at the start of a token where no token can end. -/
theorem tokenStarts_of_mark {others pieces : List Piece}
    (starts : TokenStarts others ∨ TokenEnds pieces)
    (mark : (pieces.flatMap source).head? = some '#') : TokenStarts others := by
  rcases starts with starts | ends
  · exact starts
  · cases ends '#' mark

/-- Plain text from which a token starts has white space or an operator for its last character. -/
theorem exists_last_of_behind_eq_start (nonempty : content ≠ [])
    (isStart : place.behind content = .start) :
    ∃ first last, content = first ++ [last] ∧ endsToken last = true := by
  obtain ⟨first, last, rfl⟩ : ∃ first last, content = first ++ [last] :=
    ⟨_, _, (List.dropLast_concat_getLast nonempty).symm⟩
  rw [Place.behind_append] at isStart
  exact ⟨first, last, rfl, Place.endsToken_of_next_eq_start isStart⟩

/-- In plain text without operators every `+` and `|` stands inside quotes. -/
theorem not_even_count_quote {first rest : Text} {sign : Char} (unquoted : place ≠ .quoted)
    (noOperator : ∀ mark ∈ place.marked (first ++ sign :: rest), mark.2 = false)
    (isSign : sign = '+' ∨ sign = '|') : ¬Even (first.count '"') := by
  rw [Place.marked_append, Place.marked_cons, List.forall_mem_append] at noOperator
  have inQuotes := noOperator.2 _ List.mem_cons_self
  intro closed
  have outside := Place.behind_ne_quoted unquoted closed
  rcases isSign with rfl | rfl <;> simp [Place.isOperator, outside] at inQuotes

/-- The pieces of a query that is cut well fit behind others, where a token starts behind those
whenever one may start. -/
theorem WellCut.allFit (wellCut : WellCut place pieces) {others : List Piece}
    (starts : place = .start → TokenStarts others ∨ TokenEnds pieces) : AllFit others pieces := by
  induction wellCut generalizing others with
  | nil =>
      intro before piece after split
      exact absurd split.symm (by simp)
  | @text place content pieces unquoted nonempty isPlain noOperator whole behind ih =>
      refine allFit_cons.mpr ⟨⟨nonempty, ?_, ?_⟩, ih fun isStart => .inl ?_⟩
      · rintro first sign rest rfl isSign
        exact not_even_count_quote unquoted noOperator isSign
      · intro isOpen
        have quoted : place.behind content = .quoted := by
          rw [Place.behind_eq_quoted_iff]
          exact iff_of_false isOpen unquoted
        rw [quoted] at behind
        exact behind.eq_nil
      · obtain ⟨first, last, rfl, ends⟩ := exists_last_of_behind_eq_start nonempty isStart
        exact tokenStarts_of_endsToken others rfl ends
  | and unquoted behind ih =>
      have written : Piece.and.source = [] ++ ['+'] := rfl
      have behindSign := tokenStarts_of_endsToken others written rfl
      exact allFit_cons.mpr ⟨trivial, ih fun _ => .inl behindSign⟩
  | or unquoted behind ih =>
      have written : Piece.or.source = [] ++ ['|'] := rfl
      have behindSign := tokenStarts_of_endsToken others written rfl
      exact allFit_cons.mpr ⟨trivial, ih fun _ => .inl behindSign⟩
  | loneMark ends behind ih =>
      have atMark := tokenStarts_of_mark (starts rfl) rfl
      exact allFit_cons.mpr ⟨⟨atMark, ends⟩, ih fun _ => .inr ends⟩
  | word nonempty noPhrase whole ends behind ih =>
      have atMark := tokenStarts_of_mark (starts rfl) rfl
      exact allFit_cons.mpr ⟨⟨atMark, nonempty, noPhrase, whole, ends⟩, ih fun _ => .inr ends⟩
  | @phrase run pieces noQuote behind ih =>
      have atMark := tokenStarts_of_mark (starts rfl) rfl
      have behindPhrase : TokenStarts (others ++ [.exclusion .quoted run]) :=
        .inr ⟨run, List.getLast?_concat⟩
      exact allFit_cons.mpr ⟨⟨atMark, noQuote⟩, ih fun _ => .inl behindPhrase⟩
  | @openPhrase run noQuote =>
      have atMark := tokenStarts_of_mark (starts rfl) rfl
      refine allFit_cons.mpr ⟨⟨atMark, noQuote, rfl⟩, ?_⟩
      intro before piece after split
      exact absurd split.symm (by simp)

end TableSearch.Piece

namespace TableSearch.Lexeme

/-- **The scan loses nothing and doubles nothing.** A query is its pieces one behind another: one
for each lexeme, and the marks that exclude nothing. Each piece holds what its kind may hold and
stands where a piece of its kind may stand. -/
theorem exists_pieces_scan (query : Text) :
    ∃ pieces : List Piece,
      pieces.filterMap Piece.lexeme? = scan query ∧
        pieces.flatMap Piece.source = query ∧
        ∀ before piece after, pieces = before ++ piece :: after →
          Piece.Fits before piece after := by
  have nothingBefore : Piece.TokenStarts [] := .inl fun last none => nomatch none
  have allFit : Piece.AllFit [] (Piece.scan true query) :=
    (Piece.wellCut_scan true query).allFit fun _ => .inl nothingBefore
  exact ⟨Piece.scan true query, rfl, Piece.source_scan true query, allFit⟩

end TableSearch.Lexeme
