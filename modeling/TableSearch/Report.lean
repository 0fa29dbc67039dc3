import TableSearch.Json.Pretty
import TableSearch.Search

/-!
# Reports of searches

A report is what a user is shown of a search: as text, a status line, the column names and a line
for each selected row, fields separated by tabs; or as JSON.
-/

namespace TableSearch

/-- A selected row. -/
structure ReportRow where
  /-- The index of the row in its table. -/
  index : Nat
  cells : List (Option Text)
deriving DecidableEq

/-- What a user is shown of a search. -/
structure Report where
  query : Text
  outcome : String
  message : String
  exclusionOnly : Bool
  offersDirect : Bool
  /-- The rows of the dictionary that matched, if the dictionary was used. -/
  dictionaryMatches : Option (List Nat)
  /-- The column names of the table that is searched. -/
  columns : List Text
  rows : List ReportRow
  error : Option String
deriving DecidableEq

namespace Report

/-- The report of a response to a query over a table. -/
def ofResponse (query : Text) (response : Response) (descriptions : Table) : Report where
  query := query
  outcome := response.outcome.label
  message := response.outcome.message
  exclusionOnly := response.outcome.isExclusionOnly
  offersDirect := response.outcome.offersDirect
  dictionaryMatches := response.dictionaryMatches.map Selection.indices
  columns := descriptions.columns
  rows := response.rows.indices.filterMap fun index =>
    (descriptions.row? index).map fun cells => ⟨index, cells⟩
  error := response.error.map SearchError.message

/-- Whether the report is of a failure. -/
def isFailure (report : Report) : Bool :=
  report.error.isSome

/-- A line that begins with a label: a tab behind the label and between each two fields, also where
there are no fields. -/
def line (label : Text) (fields : List Text) : Text :=
  label ++ ['\t'] ++ Text.joined ['\t'] fields ++ ['\n']

/-- The lines that tell how the search ended. -/
def statusLines (report : Report) : List Text :=
  [Text.ofString ("outcome: " ++ report.message ++ " (" ++ report.outcome ++ ")\n")] ++
    (match report.dictionaryMatches with
      | some rows => [Text.ofString ("dictionary matches: " ++ toString rows.length ++ "\n")]
      | none => []) ++
    (if report.offersDirect then
      [Text.ofString "hint: rerun with --direct to search the descriptions directly\n"]
    else [])

/-- The line of a selected row; an absent cell is an empty field. -/
def rowLine (row : ReportRow) : Text :=
  line (Text.ofNat row.index) (row.cells.map (Option.getD · []))

/-- The column names and the selected rows, if there are any. -/
def tableLines (report : Report) : List Text :=
  if report.rows.isEmpty then []
  else line (Text.ofString "row") report.columns :: report.rows.map rowLine

/-- A report as text. -/
def toText (report : Report) : Text :=
  (report.statusLines ++ report.tableLines).flatten

/-- A text that may be missing, as JSON. -/
def jsonOfText? : Option Text → Json
  | some text => .string text
  | none => .null

/-- A list of indices as JSON. -/
def jsonOfIndices (indices : List Nat) : Json :=
  .array (indices.map fun index => .integer (Int.ofNat index))

/-- A selected row as JSON. -/
def jsonOfRow (row : ReportRow) : Json :=
  .object [(Text.ofString "index", .integer (Int.ofNat row.index)),
    (Text.ofString "cells", .array (row.cells.map jsonOfText?))]

/-- A report as JSON. -/
def toJson (report : Report) : Json :=
  .object [(Text.ofString "query", .string report.query),
    (Text.ofString "outcome", .string (Text.ofString report.outcome)),
    (Text.ofString "message", .string (Text.ofString report.message)),
    (Text.ofString "negation_only", .bool report.exclusionOnly),
    (Text.ofString "offers_direct_fallback", .bool report.offersDirect),
    (Text.ofString "dictionary_matches",
      (report.dictionaryMatches.map jsonOfIndices).getD .null),
    (Text.ofString "columns", .array (report.columns.map .string)),
    (Text.ofString "rows", .array (report.rows.map jsonOfRow)),
    (Text.ofString "error", jsonOfText? (report.error.map Text.ofString))]

end Report

end TableSearch
