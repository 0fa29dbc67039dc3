import Mathlib.Algebra.GroupWithZero.Nat
import TableSearch.Proofs.Search.DictionaryWords

/-!
# Parts of a query through the dictionary

A query with `+` goes through the dictionary part by part, and the search ends early where a part
leads to nothing or nothing is left to narrow. None of the early ends shows in the selection: it is
the intersection of what the parts select when each is searched alone. Where rows are found, the
dictionary rows and the counts of words of the parts add up as well.
-/

namespace TableSearch

open Text

namespace Outcome

/-- The number of words that rows were found by, where they were found through the dictionary. -/
def foundBy? : Outcome → Option Nat
  | .described _ words _ => some words
  | _ => none

end Outcome

namespace Searcher

section Parts

variable (searcher : Searcher) (dictionary descriptions : Target) (excluded : TextSet)

/-- The rows of the dictionary that a part of a query selects. -/
def partRows (part : Text) : Selection :=
  dictionary.queryRows (Alternative.all searcher.snapshot.units part) excluded

/-- The words that a part of a query leads to. -/
def partWords (part : Text) : List Text :=
  dictionary.searchWords (searcher.partRows dictionary excluded part)

/-- Whether a part of a query leads to words. -/
def leads (part : Text) : Bool :=
  !(searcher.partRows dictionary excluded part).isEmpty &&
    !(searcher.partWords dictionary excluded part).isEmpty

/-- Whether a row is selected by a part of a query that is searched alone. -/
def partHolds (part : Text) (row : List (Option Cell)) : Bool :=
  searcher.leads dictionary excluded part && (descriptions.survives excluded row &&
    searcher.wordsHold descriptions (searcher.partWords dictionary excluded part) row)

/-- The state of a search by parts when some parts are done: what is left to narrow, the rows of the
dictionary that matched and the number of words. -/
structure Narrowing (done : List Text) (remaining matched : Selection) (words : Nat) : Prop where
  remaining_eq : remaining = descriptions.rowsWhere fun row =>
    descriptions.survives excluded row &&
      done.all (searcher.partHolds dictionary descriptions excluded · row)
  matched_eq : matched = .union dictionary.table.height
    (done.map (searcher.partRows dictionary excluded))
  words_eq : words =
    (done.map fun part => (searcher.partWords dictionary excluded part).length).sum
  leading : ∀ part ∈ done, searcher.leads dictionary excluded part = true

end Parts

variable {searcher : Searcher} {dictionary descriptions : Target} {excluded : TextSet}
  {done : List Text} {remaining matched : Selection} {words : Nat} {part : Text}

private theorem foundBy?_described (rows : Selection) (excludesOnly : Bool)
    (dictionaryRows : Selection) :
    (described rows words excludesOnly dictionaryRows).outcome.foundBy? =
      if rows.isEmpty then none else some words := by
  rw [described]
  split <;> rfl

/-- Before the first part nothing is narrowed. -/
theorem Narrowing.initial :
    searcher.Narrowing dictionary descriptions excluded [] (descriptions.survivingRows excluded)
      dictionary.none 0 := by
  refine ⟨?_, rfl, rfl, fun _ none => nomatch none⟩
  rw [Target.survivingRows_eq]
  exact Selection.ofTest_congr fun row _ => (Bool.and_true _).symm

/-- What is left when a part has led to words. -/
theorem Narrowing.remaining_step
    (state : searcher.Narrowing dictionary descriptions excluded done remaining matched words)
    (leads : searcher.leads dictionary excluded part = true) :
    remaining.and (searcher.rowsOfWords descriptions
        (searcher.partWords dictionary excluded part)) =
      descriptions.rowsWhere fun row => descriptions.survives excluded row &&
        (done ++ [part]).all (searcher.partHolds dictionary descriptions excluded · row) := by
  rw [state.remaining_eq, rowsOfWords_eq]
  refine Selection.and_ofTest.trans (Selection.ofTest_congr fun row _ => ?_)
  rw [List.all_append, List.all_cons, List.all_nil, Bool.and_true, partHolds, leads, Bool.true_and]
  cases descriptions.survives excluded row with
  | true => rw [Bool.true_and, Bool.true_and, Bool.true_and]
  | false => rw [Bool.false_and, Bool.false_and, Bool.false_and]

/-- A part that leads to words narrows the search by what it selects alone. -/
theorem Narrowing.step
    (state : searcher.Narrowing dictionary descriptions excluded done remaining matched words)
    (leads : searcher.leads dictionary excluded part = true) :
    searcher.Narrowing dictionary descriptions excluded (done ++ [part])
      (remaining.and (searcher.rowsOfWords descriptions
        (searcher.partWords dictionary excluded part)))
      (matched.or (searcher.partRows dictionary excluded part))
      (words + (searcher.partWords dictionary excluded part).length) := by
  refine ⟨state.remaining_step leads, ?_, ?_, ?_⟩
  · rw [state.matched_eq, List.map_append, Selection.union, Selection.union, List.foldl_append]
    rfl
  · rw [state.words_eq, List.map_append, List.sum_append]
    rfl
  · intro other member
    rcases List.mem_append.mp member with before | last
    · exact state.leading other before
    · rw [List.mem_singleton.mp last]
      exact leads

/-- A part that leads to no words ends the search without rows. -/
theorem searchParts_of_not_leads {rest : List Text}
    (searchable : Alternative.areSearchable
      (Alternative.all searcher.snapshot.units part) = true)
    (stops : searcher.leads dictionary excluded part = false) :
    (searcher.searchParts dictionary descriptions excluded remaining matched words
        (part :: rest)).rows = descriptions.none ∧
      (searcher.searchParts dictionary descriptions excluded remaining matched words
        (part :: rest)).outcome.foundBy? = none := by
  rw [leads, partWords, partRows] at stops
  rw [searchParts]
  simp only [searchable, Bool.not_true, Bool.false_eq_true, ↓reduceIte]
  split
  · exact ⟨rfl, rfl⟩
  · next someRow =>
    rw [Bool.eq_false_iff.mpr someRow, Bool.not_false, Bool.true_and, Bool.not_eq_false'] at stops
    simp only [stops, ↓reduceIte]
    exact ⟨trivial, rfl⟩

/-- A part that leads to words is followed by the next one, unless nothing is left to narrow. -/
theorem searchParts_of_leads {rest : List Text}
    (searchable : Alternative.areSearchable
      (Alternative.all searcher.snapshot.units part) = true)
    (goesOn : searcher.leads dictionary excluded part = true) :
    let narrowed := remaining.and
      (searcher.rowsOfWords descriptions (searcher.partWords dictionary excluded part))
    let all := matched.or (searcher.partRows dictionary excluded part)
    let count := words + (searcher.partWords dictionary excluded part).length
    searcher.searchParts dictionary descriptions excluded remaining matched words (part :: rest) =
      if narrowed.isEmpty then described narrowed count false all
      else searcher.searchParts dictionary descriptions excluded narrowed all count rest := by
  rw [leads, partWords, partRows, Bool.and_eq_true, Bool.not_eq_true', Bool.not_eq_true'] at goesOn
  intro narrowed all count
  rw [searchParts]
  simp only [searchable, goesOn.1, goesOn.2, Bool.not_true, Bool.false_eq_true, ↓reduceIte]
  rfl

/-- The search by parts selects what all parts select; where it finds rows, it has gone through all
of them. -/
theorem Narrowing.run
    (state : searcher.Narrowing dictionary descriptions excluded done remaining matched words)
    {parts : List Text} (searchable : ∀ part ∈ parts,
      Alternative.areSearchable (Alternative.all searcher.snapshot.units part) = true) :
    (searcher.searchParts dictionary descriptions excluded remaining matched words parts).rows =
        (descriptions.rowsWhere fun row => descriptions.survives excluded row &&
          (done ++ parts).all (searcher.partHolds dictionary descriptions excluded · row)) ∧
      ∀ count, (searcher.searchParts dictionary descriptions excluded remaining matched words
          parts).outcome.foundBy? = some count →
        (searcher.searchParts dictionary descriptions excluded remaining matched words
            parts).rows.isEmpty = false ∧
          ∃ all, searcher.Narrowing dictionary descriptions excluded (done ++ parts)
              (searcher.searchParts dictionary descriptions excluded remaining matched words
                parts).rows all count ∧
            (searcher.searchParts dictionary descriptions excluded remaining matched words
              parts).dictionaryMatches = some all := by
  induction parts generalizing done remaining matched words with
  | nil =>
      rw [List.append_nil, searchParts]
      refine ⟨state.remaining_eq, fun count found => ?_⟩
      rw [foundBy?_described] at found
      split at found
      · cases found
      · next some =>
        cases found
        exact ⟨Bool.eq_false_iff.mpr some, matched, state, rfl⟩
  | cons part rest ih =>
      obtain ⟨here, behind⟩ := List.forall_mem_cons.mp searchable
      have split : done ++ part :: rest = done ++ [part] ++ rest := by
        rw [List.append_assoc, List.singleton_append]
      by_cases goesOn : searcher.leads dictionary excluded part = true
      · have next := state.step goesOn
        rw [searchParts_of_leads here goesOn, split]
        by_cases nothing : (remaining.and (searcher.rowsOfWords descriptions
            (searcher.partWords dictionary excluded part))).isEmpty = true
        · simp only [nothing, ↓reduceIte]
          refine ⟨?_, fun count found => ?_⟩
          · refine next.remaining_eq.trans (Selection.ofTest_congr fun row member => ?_)
            have empty := nothing
            rw [next.remaining_eq] at empty
            have gone : (descriptions.survives excluded row && (done ++ [part]).all
                (searcher.partHolds dictionary descriptions excluded · row)) = false :=
              Selection.isEmpty_ofTest_iff.mp empty row member
            rw [gone, List.all_append, ← Bool.and_assoc, gone, Bool.false_and]
          · rw [foundBy?_described, nothing] at found
            cases found
        · simp only [nothing]
          exact ih next behind
      · have stops := Bool.eq_false_iff.mpr goesOn
        refine ⟨(searchParts_of_not_leads here stops).1.trans ?_, fun count found => ?_⟩
        · refine Selection.none_eq_ofTest.trans (Selection.ofTest_congr fun row _ => ?_)
          rw [List.all_append, List.all_cons, partHolds, stops, Bool.false_and, Bool.false_and,
            Bool.and_false, Bool.and_false]
        · rw [(searchParts_of_not_leads here stops).2] at found
          cases found

/-- The answer for a part that is searched at once with its exclusions. -/
theorem searchAtOnce_part {response : Response} {text : Text}
    (isAnswer : response = searcher.searchAtOnce dictionary descriptions
      ⟨text, ⟨part, excluded⟩, Alternative.all searcher.snapshot.units part⟩)
    (nonempty : part ≠ []) :
    response.rows =
        descriptions.rowsWhere (searcher.partHolds dictionary descriptions excluded part) ∧
      (searcher.leads dictionary excluded part = true → response.rows.isEmpty = false →
        response.outcome = .described response.rows
            (searcher.partWords dictionary excluded part).length false ∧
          response.dictionaryMatches = some (searcher.partRows dictionary excluded part)) := by
  have notOnly : Exclusions.isExclusionOnly ⟨part, excluded⟩ = false := by
    rw [Exclusions.isExclusionOnly, List.isEmpty_eq_false_iff.mpr nonempty, Bool.false_and]
  have nowhere (stops : searcher.leads dictionary excluded part = false) : descriptions.none =
      descriptions.rowsWhere (searcher.partHolds dictionary descriptions excluded part) := by
    refine Selection.none_eq_ofTest.trans (Selection.ofTest_congr fun row _ => ?_)
    rw [partHolds, stops, Bool.false_and]
  have answer : response =
      if (searcher.partRows dictionary excluded part).isEmpty then
        ⟨descriptions.none, .noDictionaryRow false,
          some (searcher.partRows dictionary excluded part), none⟩
      else if (searcher.partWords dictionary excluded part).isEmpty then
        ⟨descriptions.none, .noWords (searcher.partRows dictionary excluded part).count false,
          some (searcher.partRows dictionary excluded part), none⟩
      else
        described ((descriptions.survivingRows excluded).and (searcher.rowsOfWords descriptions
            (searcher.partWords dictionary excluded part)))
          (searcher.partWords dictionary excluded part).length false
          (searcher.partRows dictionary excluded part) := by
    rw [isAnswer, searchAtOnce]
    simp only [notOnly]
    rfl
  rw [answer]
  by_cases goesOn : searcher.leads dictionary excluded part = true
  · have found : (descriptions.survivingRows excluded).and (searcher.rowsOfWords descriptions
          (searcher.partWords dictionary excluded part)) =
        descriptions.rowsWhere (searcher.partHolds dictionary descriptions excluded part) := by
      rw [Target.survivingRows_eq, rowsOfWords_eq]
      refine Selection.and_ofTest.trans (Selection.ofTest_congr fun row _ => ?_)
      rw [partHolds, goesOn, Bool.true_and]
    have some := goesOn
    rw [leads, Bool.and_eq_true, Bool.not_eq_true', Bool.not_eq_true'] at some
    rw [some.1, some.2, if_neg Bool.false_ne_true, if_neg Bool.false_ne_true]
    refine ⟨found, fun _ someRow => ⟨if_neg ?_, rfl⟩⟩
    exact Bool.eq_false_iff.mp someRow
  · have stops := Bool.eq_false_iff.mpr goesOn
    refine ⟨?_, fun goes => absurd goes goesOn⟩
    rw [leads] at stops
    split
    · exact nowhere (Bool.eq_false_iff.mpr goesOn)
    · next someRow =>
      rw [Bool.eq_false_iff.mpr someRow, Bool.not_false, Bool.true_and, Bool.not_eq_false'] at stops
      rw [if_pos stops]
      exact nowhere (Bool.eq_false_iff.mpr goesOn)

end Searcher

/-- A part of a query with `+`: it is read as plain text with its quotes closed, perhaps with `|`,
and it asks for something. -/
structure IsPart (units : UnitTable) (query : Text) : Prop where
  lexemes : ∀ lexeme ∈ Lexeme.scan query, (∃ content, lexeme = .text content) ∨ lexeme = .or
  closed : Even (query.count '"')
  searchable : Alternative.areSearchable (Alternative.all units query) = true

variable {units : UnitTable} {query : Text}

/-- A part excludes nothing. -/
theorem IsPart.isAsking (isPart : IsPart units query) : IsAsking query :=
  (IsAsking.of_text_or isPart.lexemes isPart.closed).1

/-- A part asks for something. -/
theorem IsPart.asks (isPart : IsPart units query) : normalize query ≠ [] :=
  Alternative.normalize_ne_nil_of_areSearchable isPart.searchable

/-- What is left of a part has no `+` and asks for something. -/
theorem IsPart.remainder (isPart : IsPart units query) :
    (IsRemainder (Exclusions.ofQuery query).remainder ∧ (Exclusions.ofQuery query).remainder ≠ [] ∧
      ('+', true) ∉ Place.start.marked (Exclusions.ofQuery query).remainder) ∧
      Alternative.areSearchable
        (Alternative.all units (Exclusions.ofQuery query).remainder) = true := by
  have isRemainder := Exclusions.isRemainder_remainder isPart.isAsking
  have noAnd := (IsAsking.of_text_or isPart.lexemes isPart.closed).2
  exact ⟨⟨isRemainder, Query.remainder_ne_nil isPart.isAsking isPart.asks,
      Exclusions.and_not_mem_marked_remainder noAnd⟩,
    (Alternative.areSearchable_iff isRemainder).mpr
      ((Query.normalize_remainder_ne_nil_iff isPart.isAsking).mpr isPart.asks)⟩

section Searches

open Searcher

variable {searcher : Searcher} {dictionary descriptions : Target} {suffix : Text}
  (looks : searcher.Looks dictionary descriptions) (only : Exclusions.OnlyExcludes suffix)
include looks only

/-- A part with exclusions behind it is searched at once. -/
theorem search_part (isPart : IsPart searcher.snapshot.units query) :
    searcher.search (query ++ suffix) true = searcher.searchAtOnce dictionary descriptions
      ⟨query ++ suffix,
        ⟨(Exclusions.ofQuery query).remainder, (Exclusions.ofQuery suffix).excluded⟩,
        Alternative.all searcher.snapshot.units (Exclusions.ofQuery query).remainder⟩ := by
  obtain ⟨⟨isRemainder, -, noAnd⟩, -⟩ := isPart.remainder
  have alone : Alternative.andParts (Exclusions.ofQuery (query ++ suffix)).remainder = none := by
    rw [Exclusions.ofQuery_append isPart.isAsking only]
    exact (Alternative.andParts_of_isPlain isRemainder.plain).trans (if_neg noAnd)
  rw [search_atOnce looks (Query.isBlankText_append isPart.asks suffix)
    (Query.isInvalid_append isPart.isAsking isPart.asks only) alone, Query.ofText,
    Exclusions.ofQuery_append isPart.isAsking only]

/-- Parts that are joined with `+` are searched one after the other. -/
theorem search_joined {parts : List Text} (several : 2 ≤ parts.length)
    (areParts : ∀ part ∈ parts, IsPart searcher.snapshot.units part) :
    searcher.search (joined [' ', '+', ' '] parts ++ suffix) true =
      searcher.searchParts dictionary descriptions (Exclusions.ofQuery suffix).excluded
        (descriptions.survivingRows (Exclusions.ofQuery suffix).excluded) dictionary.none 0
        (parts.map fun part => (Exclusions.ofQuery part).remainder) := by
  have nonempty : parts ≠ [] := List.ne_nil_of_length_pos (Nat.lt_of_lt_of_le Nat.two_pos several)
  obtain ⟨asking, same⟩ := Exclusions.remainder_joined .and nonempty fun part member =>
    ⟨(areParts part member).isAsking, (areParts part member).remainder.1.2.1⟩
  obtain ⟨first, isFirst⟩ := List.exists_mem_of_ne_nil _ nonempty
  have asks : normalize (joined [' ', '+', ' '] parts) ≠ [] :=
    Query.normalize_joined_ne_nil isFirst (areParts first isFirst).asks
  have cut : Alternative.andParts
      (Exclusions.ofQuery (joined [' ', '+', ' '] parts ++ suffix)).remainder =
        some (parts.map fun part => (Exclusions.ofQuery part).remainder) := by
    rw [Exclusions.ofQuery_append asking only, same]
    refine Alternative.andParts_joined (by rwa [List.length_map]) ?_
    intro text member
    obtain ⟨part, isPart, rfl⟩ := List.mem_map.mp member
    exact (areParts part isPart).remainder.1
  rw [search_parts looks (Query.isBlankText_append asks suffix)
    (Query.isInvalid_append asking asks only) cut, Exclusions.ofQuery_append asking only]

/-- What parts that are joined with `+` select, and where it comes from. -/
theorem search_joined_narrowing {parts : List Text} (several : 2 ≤ parts.length)
    (areParts : ∀ part ∈ parts, IsPart searcher.snapshot.units part) :
    let excluded := (Exclusions.ofQuery suffix).excluded
    let remainders := parts.map fun part => (Exclusions.ofQuery part).remainder
    let whole := searcher.search (joined [' ', '+', ' '] parts ++ suffix) true
    whole.rows = (descriptions.rowsWhere fun row => descriptions.survives excluded row &&
        remainders.all (searcher.partHolds dictionary descriptions excluded · row)) ∧
      ∀ words, whole.outcome.foundBy? = some words →
        whole.rows.isEmpty = false ∧ ∃ all,
          searcher.Narrowing dictionary descriptions excluded remainders whole.rows all words ∧
            whole.dictionaryMatches = some all := by
  intro excluded remainders whole
  have searchable : ∀ part ∈ remainders, Alternative.areSearchable
      (Alternative.all searcher.snapshot.units part) = true := by
    intro text member
    obtain ⟨part, isPart, rfl⟩ := List.mem_map.mp member
    exact (areParts part isPart).remainder.2
  rw [show whole = _ from search_joined looks only several areParts]
  exact Narrowing.initial.run searchable

/-- Where parts that are joined with `+` select rows, each of them does, too. -/
theorem search_part_of_found {parts : List Text} (several : 2 ≤ parts.length)
    (areParts : ∀ part ∈ parts, IsPart searcher.snapshot.units part) {words : Nat}
    (found : (searcher.search (joined [' ', '+', ' '] parts ++ suffix) true).outcome.foundBy? =
      some words) {part : Text} (member : part ∈ parts) :
    let response := searcher.search (part ++ suffix) true
    let remainder := (Exclusions.ofQuery part).remainder
    let excluded := (Exclusions.ofQuery suffix).excluded
    response.outcome.foundBy? = some (searcher.partWords dictionary excluded remainder).length ∧
      response.dictionaryMatches = some (searcher.partRows dictionary excluded remainder) := by
  intro response remainder excluded
  obtain ⟨rows, narrowing⟩ := search_joined_narrowing looks only several areParts
  obtain ⟨someRow, all, state, -⟩ := narrowing words found
  have inRemainders : remainder ∈ parts.map fun part => (Exclusions.ofQuery part).remainder :=
    List.mem_map_of_mem member
  obtain ⟨row, isRow, holds⟩ := Selection.isEmpty_ofTest_eq_false_iff.mp (rows ▸ someRow)
  rw [Bool.and_eq_true, List.all_eq_true] at holds
  obtain ⟨aloneRows, hit⟩ := searchAtOnce_part (search_part looks only (areParts part member))
    (areParts part member).remainder.1.2.1
  have aloneRow : response.rows.isEmpty = false := by
    rw [show response.rows = _ from aloneRows]
    exact Selection.isEmpty_ofTest_eq_false_iff.mpr ⟨row, isRow, holds.2 remainder inRemainders⟩
  obtain ⟨outcome, same⟩ := hit (state.leading remainder inRemainders) aloneRow
  refine ⟨?_, same⟩
  rw [show response.outcome = _ from outcome]
  rfl

end Searches

/-- **The parts of a query are searched as if each were searched alone.** Parts joined with `+`
select the intersection of what they select alone, in any order; where they find rows, the matched
rows of the dictionary are those of all parts, and the words are counted for each part. -/
theorem search_joined_parts {searcher : Searcher} {dictionaryColumns descriptionColumns : List Nat}
    (dictionaryResolved : searcher.choices.dictionary.resolve searcher.snapshot.dictionary
      .dictionary = .ok dictionaryColumns)
    (descriptionResolved : searcher.choices.description.resolve searcher.snapshot.descriptions
      .description = .ok descriptionColumns)
    {parts : List Text} (several : 2 ≤ parts.length)
    (areParts : ∀ part ∈ parts, IsPart searcher.snapshot.units part)
    {suffix : Text} (only : Exclusions.OnlyExcludes suffix) :
    let alone (part : Text) : Response := searcher.search (part ++ suffix) true
    let whole (parts : List Text) : Response :=
      searcher.search (joined [' ', '+', ' '] parts ++ suffix) true
    (whole parts).rows = .intersection searcher.snapshot.descriptions.height
        (parts.map fun part => (alone part).rows) ∧
      (∀ order : List Text, order.Perm parts → (whole order).rows = (whole parts).rows) ∧
        ∀ words, (whole parts).outcome.foundBy? = some words →
          ∃ (counts : List Nat) (matched : List Selection),
          (parts.map fun part => (alone part).outcome.foundBy?) = counts.map some ∧
            words = counts.sum ∧
          (parts.map fun part => (alone part).dictionaryMatches) = matched.map some ∧
            (whole parts).dictionaryMatches =
              some (.union searcher.snapshot.dictionary.height matched) := by
  intro alone whole
  have looks := Searcher.looks_of_resolve dictionaryResolved descriptionResolved
  let dictionary := searcher.dictionaryTarget dictionaryColumns
  let descriptions := searcher.descriptionTarget descriptionColumns
  let excluded := (Exclusions.ofQuery suffix).excluded
  let holds (part : Text) := searcher.partHolds dictionary descriptions excluded
    (Exclusions.ofQuery part).remainder
  have rowsAlone : ∀ part, IsPart searcher.snapshot.units part →
      (alone part).rows = .ofTest descriptions.table.rows (holds part) := by
    intro part isPart
    exact (Searcher.searchAtOnce_part (search_part looks only isPart) isPart.remainder.1.2.1).1
  have rowsWhole : ∀ parts : List Text, 2 ≤ parts.length →
      (∀ part ∈ parts, IsPart searcher.snapshot.units part) →
      (whole parts).rows = descriptions.rowsWhere fun row => parts.all (holds · row) := by
    intro parts several areParts
    refine (search_joined_narrowing looks only several areParts).1.trans
      (Selection.ofTest_congr fun row _ => ?_)
    rw [List.all_map]
    cases alive : descriptions.survives excluded row with
    | true => exact Bool.true_and _
    | false =>
        obtain ⟨first, isFirst⟩ := List.exists_mem_of_ne_nil parts
          (List.ne_nil_of_length_pos (Nat.lt_of_lt_of_le Nat.two_pos several))
        rw [Bool.false_and, eq_comm, List.all_eq_false]
        refine ⟨first, isFirst, Bool.eq_false_iff.mp ?_⟩
        change searcher.partHolds dictionary descriptions excluded
          (Exclusions.ofQuery first).remainder row = false
        rw [Searcher.partHolds, alive, Bool.false_and, Bool.and_false]
  refine ⟨?_, ?_, ?_⟩
  · rw [rowsWhole parts several areParts]
    refine (Selection.intersection_ofTest parts holds).symm.trans ?_
    exact congrArg (Selection.intersection _)
      (List.map_congr_left fun part member => (rowsAlone part (areParts part member)).symm)
  · intro order permuted
    have orderParts : ∀ part ∈ order, IsPart searcher.snapshot.units part := fun part member =>
      areParts part (permuted.mem_iff.mp member)
    rw [rowsWhole order (permuted.length_eq ▸ several) orderParts,
      rowsWhole parts several areParts]
    exact Selection.ofTest_congr fun row _ => permuted.all_eq
  · intro words found
    obtain ⟨-, all, state, same⟩ :=
      (search_joined_narrowing looks only several areParts).2 words found
    refine ⟨parts.map fun part => (searcher.partWords dictionary excluded
      (Exclusions.ofQuery part).remainder).length, parts.map fun part =>
        searcher.partRows dictionary excluded (Exclusions.ofQuery part).remainder, ?_, ?_, ?_, ?_⟩
    · rw [List.map_map]
      exact List.map_congr_left fun part member =>
        (search_part_of_found looks only several areParts found member).1
    · rw [state.words_eq, List.map_map]
      rfl
    · rw [List.map_map]
      exact List.map_congr_left fun part member =>
        (search_part_of_found looks only several areParts found member).2
    · rw [show (whole parts).dictionaryMatches = _ from same, state.matched_eq, List.map_map]
      rfl

/-- Of the rows that `bolt` leads to and those that `nut | washer` leads to, one is left, in either
order of the parts. -/
theorem search_joined_parts_sample :
    Searcher.sample.choices.dictionary.resolve Searcher.sample.snapshot.dictionary .dictionary =
        .ok [0] ∧
      Searcher.sample.choices.description.resolve Searcher.sample.snapshot.descriptions
        .description = .ok [0] ∧
      (∀ part ∈ [ofString "bolt", ofString "nut | washer"],
        IsPart Searcher.sample.snapshot.units part) ∧
      Exclusions.OnlyExcludes (ofString " #acero") ∧
      (Searcher.sample.search (ofString "bolt + nut | washer #acero") true).rows =
        ⟨[false, false, false, true]⟩ ∧
      (Searcher.sample.search (ofString "nut | washer + bolt #acero") true).rows =
        ⟨[false, false, false, true]⟩ := by
  have dictionaryResolved : Searcher.sample.choices.dictionary.resolve
      Searcher.sample.snapshot.dictionary .dictionary = .ok [0] := by rfl
  have descriptionResolved : Searcher.sample.choices.description.resolve
      Searcher.sample.snapshot.descriptions .description = .ok [0] := by rfl
  have parts : ∀ part ∈ [ofString "bolt", ofString "nut | washer"],
      IsPart Searcher.sample.snapshot.units part := by
    have bolt : Lexeme.scan (ofString "bolt") = [.text (ofString "bolt")] := by decide +kernel
    have nutOrWasher : Lexeme.scan (ofString "nut | washer") =
        [.text (ofString "nut "), .or, .text (ofString " washer")] := by decide +kernel
    intro part member
    simp only [List.mem_cons, List.not_mem_nil, or_false] at member
    rcases member with rfl | rfl
    · refine ⟨?_, by decide, by decide +kernel⟩
      rw [bolt]
      exact List.forall_mem_singleton.mpr (.inl ⟨_, rfl⟩)
    · refine ⟨?_, by decide, by decide +kernel⟩
      rw [nutOrWasher]
      simp
  have bare : ∀ word ∈ [ofString "acero"], Exclusions.IsBare word :=
    List.forall_mem_singleton.mpr ⟨Exclusions.whole_of_all (by decide +kernel), by decide⟩
  have only : Exclusions.OnlyExcludes (ofString " #acero") := Exclusions.onlyExcludes_written bare
  have joinedParts := search_joined_parts dictionaryResolved descriptionResolved (by decide) parts
    only
  have found : (Searcher.sample.search (ofString "bolt + nut | washer #acero") true).rows =
      ⟨[false, false, false, true]⟩ := by
    refine joinedParts.1.trans ?_
    decide +kernel
  refine ⟨dictionaryResolved, descriptionResolved, parts, only, found, ?_⟩
  exact (joinedParts.2.1 [ofString "nut | washer", ofString "bolt"]
    (List.Perm.swap _ _ _)).trans found

end TableSearch
