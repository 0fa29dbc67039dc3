import TableSearch.Proofs.Query.Scan
import TableSearch.Proofs.Term.Uppercase
import TableSearch.Query.Alternatives
import TableSearch.Query.Exclusions

/-!
# Queries in upper case

Upper case leaves every sign that a query is scanned by in its place and makes no new ones. Main
statements: the lexemes of a query in upper case are those of the query, each in upper case, and so
are its remainder and its parts, while it excludes the same.
-/

namespace TableSearch

/-- A lexeme with its text in upper case. -/
def Lexeme.uppercase : Lexeme → Lexeme
  | .text content => .text (Text.uppercase content)
  | .and => .and
  | .or => .or
  | .exclusion payload => .exclusion (Text.uppercase payload)

namespace Piece

open Text

variable {atStart : Bool} {run rest : Text}

/-- A piece with its text in upper case. -/
def uppercase : Piece → Piece
  | .text content => .text (Text.uppercase content)
  | .and => .and
  | .or => .or
  | .loneMark => .loneMark
  | .exclusion form payload => .exclusion form (Text.uppercase payload)

/-- Upper case keeps what ends a token. -/
theorem keeps_endsToken : Keeps endsToken upperChar := by
  apply keeps_upperChar
  intro character ends
  rw [endsToken, Bool.or_eq_true, Bool.or_eq_true, decide_eq_true_eq, decide_eq_true_eq] at ends
  rcases ends with (blank | rfl) | rfl
  · rw [isSyntax, blank]
    rfl
  · exact isSyntax_of_mem (by decide)
  · exact isSyntax_of_mem (by decide)

private theorem forall_unquoted_uppercase (noQuote : ∀ character ∈ run, character ≠ '"') :
    ∀ character ∈ Text.uppercase run, character ≠ '"' := by
  rintro character member rfl
  exact noQuote '"' ((mem_uppercase_iff (by decide)).mp member) rfl

private theorem forall_endsToken_uppercase (ends : ∀ next ∈ rest.head?, endsToken next = true) :
    ∀ next ∈ (Text.uppercase rest).head?, endsToken next = true := by
  cases rest with
  | nil =>
      rintro next ⟨⟩
  | cons character more =>
      have here := ends character rfl
      rw [uppercase_cons, keeps_endsToken.passing character here]
      intro next isNext
      rwa [← Option.some.inj isNext]

private theorem map_prependText (content : Text) (pieces : List Piece) :
    (prependText content pieces).map uppercase =
      prependText (Text.uppercase content) (pieces.map uppercase) := by
  cases pieces with
  | nil => rfl
  | cons piece others =>
      cases piece with
      | text more =>
          rw [prependText, List.map_cons, uppercase, uppercase_append]
          rfl
      | and => rfl
      | or => rfl
      | loneMark => rfl
      | exclusion form payload => rfl

/-- Characters that no query is read by are plain text in one piece. -/
theorem scan_plainRun (nonempty : run ≠ []) (unread : ∀ character ∈ run, isSyntax character = false)
    (rest : Text) : scan atStart (run ++ rest) = prependText run (scan false rest) := by
  induction run generalizing atStart with
  | nil => exact absurd rfl nonempty
  | cons character more ih =>
      obtain ⟨here, behind⟩ := List.forall_mem_cons.mp unread
      have ne_sign {sign : Char} (isSign : sign ∈ syntaxSigns) : character ≠ sign :=
        ne_sign_of_unread here isSign
      rw [List.cons_append, scan_plain (ne_sign (by decide)) (ne_sign (by decide))
        (ne_sign (by decide)) (fun mark => ne_sign (by decide) mark.1), not_isBlank_of_unread here]
      by_cases last : more = []
      · rw [last]
        rfl
      · rw [ih last behind, prependText_prependText]
        rfl

/-- The pieces of a text in upper case are those of the text. -/
theorem scan_uppercase (atStart : Bool) (text : Text) :
    scan atStart (Text.uppercase text) = (scan atStart text).map uppercase := by
  have sign {sign : Char} (isSign : sign ∈ syntaxSigns) (rest : Text) :
      Text.uppercase (sign :: rest) = sign :: Text.uppercase rest :=
    uppercase_cons_of_isSyntax (isSyntax_of_mem isSign) rest
  have quote (rest : Text) : Text.uppercase ('"' :: rest) = '"' :: Text.uppercase rest :=
    sign (by decide) rest
  have mark (rest : Text) : Text.uppercase ('#' :: rest) = '#' :: Text.uppercase rest :=
    sign (by decide) rest
  have quotation (run rest : Text) : Text.uppercase ('"' :: (run ++ '"' :: rest)) =
      '"' :: (Text.uppercase run ++ '"' :: Text.uppercase rest) := by
    rw [quote, uppercase_append, quote]
  induction atStart, text using scanInduction with
  | nil atStart =>
      change scan atStart [] = _
      rw [scan_nil]
      rfl
  | quotation atStart run rest noQuote ih =>
      rw [quotation, scan_quotation (forall_unquoted_uppercase noQuote), scan_quotation noQuote,
        map_prependText, ih, quotation]
      rfl
  | unclosed atStart run noQuote =>
      rw [quote, scan_unclosed (forall_unquoted_uppercase noQuote), scan_unclosed noQuote,
        List.map_singleton, uppercase, quote]
  | operator atStart lexeme operator rest isSign ih =>
      cases isSign with
      | and =>
          rw [sign (by decide), scan_and, scan_and, ih]
          rfl
      | or =>
          rw [sign (by decide), scan_or, scan_or, ih]
          rfl
  | loneMark rest lone ih =>
      rw [mark, scan_loneMark (forall_endsToken_uppercase lone), scan_loneMark lone, ih]
      rfl
  | word word rest nonempty noPhrase whole ended ih =>
      rw [mark, uppercase_append, scan_word _ _ _ (forall_endsToken_uppercase ended),
        scan_word nonempty noPhrase whole ended, ih]
      · rfl
      · exact fun none => nonempty (uppercase_eq_nil_iff.mp none)
      · exact fun phrase => noPhrase ((head?_uppercase_iff (by decide)).mp phrase)
      · exact keeps_endsToken.forall_flatMap whole
  | phrase run rest noQuote ih =>
      rw [mark, quotation, scan_phrase (forall_unquoted_uppercase noQuote), scan_phrase noQuote, ih]
      rfl
  | openPhrase run noQuote =>
      rw [mark, quote, scan_openPhrase (forall_unquoted_uppercase noQuote), scan_openPhrase noQuote]
      rfl
  | plain atStart character rest noQuote noAnd noOr noMark ih =>
      rw [scan_plain noQuote noAnd noOr noMark, map_prependText, ← ih]
      cases readBy : isSyntax character with
      | true =>
          rw [uppercase_cons_of_isSyntax readBy, uppercase_cons_of_isSyntax readBy,
            scan_plain noQuote noAnd noOr noMark]
          rfl
      | false =>
          rw [uppercase_cons, uppercase_cons, scan_plainRun (upperChar_ne_nil character),
            not_isBlank_of_unread readBy]
          · exact congrArg (prependText · _) (List.append_nil _).symm
          · exact (keeps_upperChar fun _ => id).failing character readBy

end Piece

namespace Lexeme

/-- The lexemes of a query in upper case are those of the query. -/
theorem scan_uppercase (query : Text) :
    scan (Text.uppercase query) = (scan query).map uppercase := by
  have meaning (piece : Piece) : piece.uppercase.lexeme? = piece.lexeme?.map uppercase := by
    cases piece <;> rfl
  rw [scan, Piece.scan_uppercase, List.filterMap_map, scan, List.map_filterMap]
  exact congrArg (List.filterMap · _) (funext meaning)

/-- What a reading takes from lexemes in upper case is in upper case where that holds of each. -/
theorem flatMap_uppercase {reading : Lexeme → Text}
    (each : ∀ lexeme, reading lexeme.uppercase = Text.uppercase (reading lexeme))
    (lexemes : List Lexeme) :
    (lexemes.map uppercase).flatMap reading = Text.uppercase (lexemes.flatMap reading) := by
  rw [List.flatMap_map, Text.uppercase, List.flatMap_assoc]
  exact congrArg (List.flatMap · lexemes) (funext each)

private theorem remainder_uppercase (lexeme : Lexeme) :
    lexeme.uppercase.remainder = Text.uppercase lexeme.remainder := by
  cases lexeme with
  | text content => rfl
  | and => exact (Term.uppercase_sign (by decide) []).symm
  | or => exact (Term.uppercase_sign (by decide) []).symm
  | exclusion payload => exact Text.uppercase_space.symm

private theorem literal_uppercase (lexeme : Lexeme) :
    lexeme.uppercase.literal = Text.uppercase lexeme.literal := by
  cases lexeme with
  | text content => rfl
  | and => exact (Term.uppercase_sign (by decide) []).symm
  | or => exact (Term.uppercase_sign (by decide) []).symm
  | exclusion payload => rfl

/-- A lexeme in upper case excludes the same. -/
theorem excluded?_uppercase (lexeme : Lexeme) : lexeme.uppercase.excluded? = lexeme.excluded? := by
  cases lexeme with
  | text content => rfl
  | and => rfl
  | or => rfl
  | exclusion payload => rw [uppercase, excluded?, excluded?, Text.normalize_uppercase]

end Lexeme

/-- A query in upper case leaves what the query leaves, in upper case, and excludes the same. -/
theorem Exclusions.ofQuery_uppercase (query : Text) : ofQuery (Text.uppercase query) =
    ⟨Text.uppercase (ofQuery query).remainder, (ofQuery query).excluded⟩ := by
  have same : Lexeme.excluded? ∘ Lexeme.uppercase = Lexeme.excluded? :=
    funext Lexeme.excluded?_uppercase
  rw [ofQuery, ofQuery, Lexeme.scan_uppercase, Lexeme.flatMap_uppercase Lexeme.remainder_uppercase,
    Text.collapsed_uppercase, List.filterMap_map, same]

namespace Alternative

/-- An alternative with what it was read from in upper case. -/
def uppercase (alternative : Alternative) : Alternative :=
  ⟨Text.uppercase alternative.source, alternative.terms.map Term.uppercase⟩

/-- The parts of a query in upper case are those of the query, in upper case. -/
theorem parts_uppercase {isSeparator : Lexeme → Bool}
    (same : ∀ lexeme, isSeparator lexeme.uppercase = isSeparator lexeme) (query : Text) :
    parts isSeparator (Lexeme.scan (Text.uppercase query)) =
      (parts isSeparator (Lexeme.scan query)).map Text.uppercase := by
  have each (part : List Lexeme) :
      Text.trimmed ((part.map Lexeme.uppercase).flatMap Lexeme.literal) =
      Text.uppercase (Text.trimmed (part.flatMap Lexeme.literal)) := by
    rw [Lexeme.flatMap_uppercase Lexeme.literal_uppercase, Text.trimmed_uppercase]
  rw [parts, parts, Lexeme.scan_uppercase, Text.splitOnP_map]
  simp only [same, List.map_map, Function.comp_def, each]
  rw [← Function.comp_def Text.uppercase, ← List.map_map, List.filter_map]
  simp only [Function.comp_def, Text.isEmpty_uppercase]

private theorem isAnd_uppercase (lexeme : Lexeme) :
    decide (lexeme.uppercase = .and) = decide (lexeme = .and) := by
  cases lexeme <;> rfl

private theorem isOr_uppercase (lexeme : Lexeme) :
    decide (lexeme.uppercase = .or) = decide (lexeme = .or) := by
  cases lexeme <;> rfl

private theorem hasTopLevelAnd_uppercase (query : Text) :
    hasTopLevelAnd (Text.uppercase query) = hasTopLevelAnd query := by
  rw [hasTopLevelAnd, hasTopLevelAnd, Lexeme.scan_uppercase, Bool.eq_iff_iff,
    List.contains_iff_mem, List.contains_iff_mem, List.mem_map]
  constructor
  · rintro ⟨lexeme, member, isAnd⟩
    rwa [← of_decide_eq_true ((isAnd_uppercase lexeme).symm.trans (decide_eq_true isAnd))]
  · intro member
    exact ⟨.and, member, rfl⟩

/-- A query in upper case is cut at the same `+`. -/
theorem andParts_uppercase (query : Text) :
    andParts (Text.uppercase query) = (andParts query).map (List.map Text.uppercase) := by
  rw [andParts, andParts, hasTopLevelAnd_uppercase, parts_uppercase isAnd_uppercase]
  split <;> rfl

private theorem ofSource_uppercase (units : UnitTable) {isSeparator : Lexeme → Bool}
    (same : ∀ lexeme, isSeparator lexeme.uppercase = isSeparator lexeme) (source : Text) :
    ofSource units isSeparator (Text.uppercase source) =
      (ofSource units isSeparator source).uppercase := by
  have each : Term.classify units ∘ Text.uppercase =
      fun token => (Term.classify units token).map Term.uppercase :=
    funext (Term.classify_uppercase units)
  rw [ofSource, parts_uppercase same, List.filterMap_map, each, ofSource, uppercase,
    List.map_filterMap]

/-- The alternatives of a query in upper case are those of the query. -/
theorem all_uppercase (units : UnitTable) (query : Text) :
    all units (Text.uppercase query) = (all units query).map uppercase := by
  rw [all, all, hasTopLevelAnd_uppercase, Text.trimmed_uppercase, parts_uppercase isOr_uppercase]
  dsimp only
  rw [Text.isEmpty_uppercase]
  split
  · split
    · rfl
    · rw [ofSource_uppercase units isAnd_uppercase]
      rfl
  · rw [List.map_map, List.map_map]
    exact List.map_congr_left fun source _ => ofSource_uppercase units (fun _ => rfl) source

end Alternative

end TableSearch
