import TableSearch.Files
import TableSearch.TableFile
import TableSearch.UnitFile

/-!
# Why a file cannot be used

Table files and unit files are read whole. A file may be missing, and what it holds may be
malformed; a user is told the path of the file in either case.
-/

namespace TableSearch

/-- A cause for which a file cannot be used. -/
inductive SourceError where
  /-- The file cannot be opened, or is a unit file that cannot be read. -/
  | unreadable (path : Text) (failure : ReadFailure)
  /-- A unit file is not UTF-8. -/
  | notUtf8 (path : Text)
  /-- A table file was opened and cannot be read. -/
  | unreadableTable (path : Text) (failure : ReadFailure)
  /-- A table file holds no table. -/
  | table (path : Text) (fault : TableFile.Fault)
  /-- A unit file holds no units. -/
  | units (path : Text) (fault : UnitFile.Fault)

namespace SourceError

/-- What a user is told of a record that is not UTF-8. -/
def invalidRecord (position : Csv.Position) (field validBytes : Nat) : String :=
  let inField := toString field
  "CSV parse error: record " ++ toString position.record ++ " (line " ++ toString position.line ++
    ", field: " ++ inField ++ ", byte: " ++ toString position.byte ++
    "): invalid utf-8: invalid UTF-8 in field " ++ inField ++ " near byte index " ++
    toString validBytes

/-- What a user is told of a cause. -/
def message : SourceError → Text
  | .unreadable path failure =>
      Text.ofString "cannot read " ++ path ++ Text.ofString (": " ++ failure.message)
  | .notUtf8 path =>
      Text.ofString "cannot read " ++ path ++
        Text.ofString ": stream did not contain valid UTF-8"
  | .unreadableTable path failure =>
      Text.ofString "CSV error in " ++ path ++ Text.ofString (": " ++ failure.message)
  | .table path .noHeader => path ++ Text.ofString " has no header row"
  | .table path (.noText position field validBytes) =>
      Text.ofString "CSV error in " ++ path ++
        Text.ofString (": " ++ invalidRecord position field validBytes)
  | .units path fault =>
      Text.ofString "JSON error in " ++ path ++ Text.ofString ": " ++ fault.message

end SourceError

/-- The table of a file that was read, or why there is none. A directory can be opened like a file
and fails only when it is read. -/
def TableFile.ofContent (path : Text) (delimiter : UInt8) (content : FileContent) :
    Except SourceError Table :=
  match content with
  | .error .isDirectory => .error (.unreadableTable path .isDirectory)
  | .error failure => .error (.unreadable path failure)
  | .ok bytes =>
      match TableFile.read delimiter bytes with
      | .ok table => .ok table
      | .error fault => .error (.table path fault)

/-- The units of a file that was read, or why there are none. -/
def UnitFile.ofContent (path : Text) (content : FileContent) :
    Except SourceError (List UnitEntry) :=
  match content with
  | .error failure => .error (.unreadable path failure)
  | .ok bytes =>
      match Text.ofUtf8 bytes with
      | .error _ => .error (.notUtf8 path)
      | .ok text =>
          match UnitFile.read text with
          | .ok units => .ok units
          | .error fault => .error (.units path fault)

end TableSearch
