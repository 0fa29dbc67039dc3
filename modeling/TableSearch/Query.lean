import TableSearch.Query.Alternatives
import TableSearch.Query.Exclusions

/-!
# Queries

A query is read in two steps: its exclusions are taken out, and the rest is decomposed into
alternatives. A query that is not blank has to leave a term to search for or something to exclude.
-/

namespace TableSearch

/-- A query with what was read from it. -/
structure Query where
  /-- The query as it was given. -/
  raw : Text
  /-- What the query excludes, and the rest of it. -/
  exclusions : Exclusions
  alternatives : List Alternative

namespace Query

/-- Reads a query. -/
def ofText (units : UnitTable) (raw : Text) : Query :=
  let exclusions := Exclusions.ofQuery raw
  ⟨raw, exclusions, Alternative.all units exclusions.remainder⟩

/-- Whether a query is empty or white space only. -/
def isBlank (query : Query) : Bool :=
  Text.isBlankText query.raw

/-- Whether anything is left of a query without its exclusions. -/
def asksForSomething (query : Query) : Bool :=
  !query.exclusions.remainder.isEmpty

/-- Whether a query is not blank, yet leaves nothing to search for and nothing to exclude. -/
def isInvalid (query : Query) : Bool :=
  if query.isBlank then false
  else if query.asksForSomething then !Alternative.areSearchable query.alternatives
  else query.exclusions.excluded.isEmpty

/-- A term as it is written in a query: in quotes if it has white space and no quotes yet. -/
def writeTerm (term : Text) : Text :=
  if term.any Text.isBlank && (Term.unquote term).isNone then ['"'] ++ term ++ ['"'] else term

/-- The query that asks for any of the given terms. -/
def anyOf (terms : List Text) : Text :=
  Text.joined [' ', '|', ' '] (terms.map writeTerm)

end Query

end TableSearch
