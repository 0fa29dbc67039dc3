import TableSearch.SearchError
import TableSearch.Selection

/-!
# How a search ends
-/

namespace TableSearch

/-- The ways in which a search ends. Those through the dictionary tell whether the query only
excludes. -/
inductive Outcome where
  /-- The query is blank; every row is selected. -/
  | everything
  /-- No row of the dictionary matches. -/
  | noDictionaryRow (excludesOnly : Bool)
  /-- Rows of the dictionary match, but hold no words to search for. -/
  | noWords (dictionaryRows : Nat) (excludesOnly : Bool)
  /-- No row has the words of the dictionary. -/
  | noDescription (words : Nat) (excludesOnly : Bool)
  /-- Rows have the words of the dictionary. -/
  | described (rows : Selection) (words : Nat) (excludesOnly : Bool)
  | direct (rows : Selection)
  /-- No row matches the query itself. -/
  | noDirect
  | failure (cause : SearchError)
deriving DecidableEq

namespace Outcome

/-- The name of an outcome. -/
def label : Outcome → String
  | .everything => "match_all"
  | .noDictionaryRow _ => "dictionary_no_match"
  | .noWords _ _ => "dictionary_match_no_terms_extracted"
  | .noDescription _ _ => "dictionary_match_no_description_hits"
  | .described _ _ _ => "dictionary_match_with_description_hits"
  | .direct _ => "direct_description_hits"
  | .noDirect => "direct_description_no_hits"
  | .failure _ => "error"

/-- Whether the dictionary led to no row, so that searching directly may help. -/
def offersDirect : Outcome → Bool
  | .noDictionaryRow _ => true
  | .noWords _ _ => true
  | .noDescription _ _ => true
  | _ => false

/-- Whether the query of a search through the dictionary only excludes. -/
def isExclusionOnly : Outcome → Bool
  | .noDictionaryRow excludesOnly => excludesOnly
  | .noWords _ excludesOnly => excludesOnly
  | .noDescription _ excludesOnly => excludesOnly
  | .described _ _ excludesOnly => excludesOnly
  | _ => false

/-- Whether the search failed. -/
def isFailure : Outcome → Bool
  | .failure _ => true
  | _ => false

/-- What an outcome is in words. -/
def statement : Outcome → String
  | .everything => "no query: showing every row"
  | .noDictionaryRow _ => "no dictionary row matched"
  | .noWords dictionaryRows _ =>
      toString dictionaryRows ++ " dictionary rows matched but yielded no search terms"
  | .noDescription words _ => toString words ++ " dictionary terms matched no description rows"
  | .described rows words _ =>
      toString rows.count ++ " description rows matched via " ++ toString words ++
        " dictionary terms"
  | .direct rows => toString rows.count ++ " description rows matched directly"
  | .noDirect => "no description row matched directly"
  | .failure cause => cause.kind.name ++ " error: " ++ cause.message

/-- What a caller is told of an outcome. -/
def message (outcome : Outcome) : String :=
  if outcome.isExclusionOnly then outcome.statement ++ " (negation only)" else outcome.statement

end Outcome

end TableSearch
