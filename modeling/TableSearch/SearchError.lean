import TableSearch.Text.Quoted

/-!
# Why a search fails

An empty result is no failure. A search fails when its columns cannot be used or when its query
leaves nothing to search for.
-/

namespace TableSearch

/-- The part that a table plays in a search. -/
inductive TableRole where
  /-- The table whose words queries are turned into. -/
  | dictionary
  | description
deriving DecidableEq

/-- The name of a role. -/
def TableRole.name : TableRole → String
  | .dictionary => "dictionary"
  | .description => "description"

/-- The kinds of failure that a caller is told about. -/
inductive ErrorKind where
  /-- The columns or the configuration cannot be used. -/
  | configuration
  | invalidTerm
  | internal
deriving DecidableEq

/-- The name of a kind of failure. -/
def ErrorKind.name : ErrorKind → String
  | .configuration => "configuration"
  | .invalidTerm => "termino_invalido"
  | .internal => "internal"

/-- A cause of failure. -/
inductive SearchError where
  /-- No column of the table is left to search. -/
  | noUsableColumns (role : TableRole)
  /-- A column was asked for that the table does not have. -/
  | columnOutOfRange (role : TableRole) (index width : Nat)
  | invalidTerm (query : Text)
  /-- A column that was chosen is not in the table. -/
  | missingColumn (role : TableRole) (column : Nat)
deriving DecidableEq

namespace SearchError

/-- The kind of a failure. -/
def kind : SearchError → ErrorKind
  | .noUsableColumns _ => .configuration
  | .columnOutOfRange _ _ _ => .configuration
  | .invalidTerm _ => .invalidTerm
  | .missingColumn _ _ => .internal

/-- What a caller is told of a failure. -/
def message : SearchError → String
  | .noUsableColumns role => role.name ++ " table has no usable text columns"
  | .columnOutOfRange role index width =>
      role.name ++ " column index " ++ toString index ++ " is out of range (table has " ++
        toString width ++ " columns)"
  | .invalidTerm query =>
      "invalid term: " ++ String.ofList (Text.quoted query) ++ " contains no searchable terms"
  | .missingColumn role column =>
      role.name ++ " column " ++ toString column ++ " disappeared during evaluation"

end SearchError

end TableSearch
