import TableSearch.Query.Lexeme
import TableSearch.Text.Fold
import TableSearch.Text.OrderedMap

/-!
# Taking the exclusions out of a query

What a query excludes is a set of words and phrases in normal form. The rest of the query is its
text with a space in the place of each exclusion and white space collapsed.
-/

namespace TableSearch

/-- A query cut into what it asks for and what it excludes. -/
structure Exclusions where
  /-- The query without its exclusions, white space collapsed. -/
  remainder : Text
  /-- The excluded words and phrases, in normal form. -/
  excluded : TextSet
deriving DecidableEq

/-- What a lexeme leaves in the query when exclusions are taken out. -/
def Lexeme.remainder : Lexeme → Text
  | .text content => content
  | .and => ['+']
  | .or => ['|']
  | .exclusion _ => [' ']

/-- The normal form of what a lexeme excludes, if it excludes anything. -/
def Lexeme.excluded? : Lexeme → Option Text
  | .exclusion payload =>
      let word := Text.normalize payload
      if word.isEmpty then none else some word
  | _ => none

namespace Exclusions

/-- The exclusions of a query and the rest of it. -/
def ofQuery (query : Text) : Exclusions where
  remainder := Text.collapsed ((Lexeme.scan query).flatMap Lexeme.remainder)
  excluded := .ofTexts ((Lexeme.scan query).filterMap Lexeme.excluded?)

/-- Whether a query excludes something and asks for nothing. -/
def isExclusionOnly (exclusions : Exclusions) : Bool :=
  exclusions.remainder.isEmpty && !exclusions.excluded.isEmpty

end Exclusions

end TableSearch
