import TableSearch.Query.Lexeme
import TableSearch.Term.Classify

/-!
# The alternatives of a query

A query without exclusions is a choice between alternatives, each of which asks for all of its
terms. Where a `+` stands outside quotes, the whole query is one alternative with a term for each
part between two `+`, and `|` is plain text; else each part between two `|` is an alternative with
at most one term.
-/

namespace TableSearch

/-- One way to satisfy a query: all of its terms hold. -/
structure Alternative where
  /-- The part of the query that the alternative was read from. -/
  source : Text
  /-- The terms that have to hold. -/
  terms : List Term

/-- The characters that a lexeme stands for when it separates nothing; an exclusion stands for
none. -/
def Lexeme.literal : Lexeme → Text
  | .text content => content
  | .and => ['+']
  | .or => ['|']
  | .exclusion _ => []

namespace Alternative

/-- The parts of a query between its separators: trimmed, and those that are not empty. -/
def parts (isSeparator : Lexeme → Bool) (lexemes : List Lexeme) : List Text :=
  ((lexemes.splitOnP isSeparator).map fun part =>
    Text.trimmed (part.flatMap Lexeme.literal)).filter fun part => !part.isEmpty

/-- Whether a `+` stands outside quotes. -/
def hasTopLevelAnd (query : Text) : Bool :=
  (Lexeme.scan query).contains .and

/-- The parts of a query between its `+`, if it has one outside quotes; `|` stays in the parts. -/
def andParts (query : Text) : Option (List Text) :=
  if hasTopLevelAnd query then some (parts (· = .and) (Lexeme.scan query)) else none

/-- The alternative that a part of a query is, its terms cut at the separators. -/
def ofSource (units : UnitTable) (isSeparator : Lexeme → Bool) (source : Text) : Alternative where
  source := source
  terms := (parts isSeparator (Lexeme.scan source)).filterMap (Term.classify units)

/-- The alternatives of a query without exclusions. -/
def all (units : UnitTable) (query : Text) : List Alternative :=
  if hasTopLevelAnd query then
    let whole := Text.trimmed query
    if whole.isEmpty then [] else [ofSource units (· = .and) whole]
  else
    (parts (· = .or) (Lexeme.scan query)).map (ofSource units fun _ => false)

/-- Whether some alternative has a term. -/
def areSearchable (alternatives : List Alternative) : Bool :=
  alternatives.any fun alternative => !alternative.terms.isEmpty

end Alternative

end TableSearch
