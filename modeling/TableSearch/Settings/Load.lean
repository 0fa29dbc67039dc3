import TableSearch.Files
import TableSearch.Settings.Format
import TableSearch.Text.Utf8

/-!
# Loading settings files

The ending of its name tells the format of a settings file. Where there is no file of a name, one
with an ending added to the name is taken.
-/

namespace TableSearch.Settings

/-- The endings of the names of settings files. -/
def formats : List (Text × Format) :=
  [(Text.ofString "toml", .toml), (Text.ofString "json", .json), (Text.ofString "yaml", .yaml),
   (Text.ofString "yml", .yaml)]

/-- What stands behind the last dot of the name at the end of a path, if something stands before
it, too. -/
def ending? (path : Text) : Option Text :=
  let name := (path.reverse.takeWhile (· ≠ '/')).reverse
  match (name.splitOn '.').reverse with
  | last :: earlier => if earlier = [] ∨ earlier = [[]] then none else some last
  | [] => none

/-- The text of a file. A byte order mark at its beginning is left out, and what is not UTF-8 is
replaced. -/
def fileText (bytes : List UInt8) : Text :=
  match bytes with
  | 0xEF :: 0xBB :: 0xBF :: rest => Text.ofUtf8Replacing rest
  | _ => Text.ofUtf8Replacing bytes

variable {m : Type → Type} [Monad m]

/-- The settings of the first file that is there, of those with an ending added to a path. -/
def loadWithEnding (files : Files m) (path : Text) :
    List (Text × Format) → m (Except Fault Settings)
  | [] => pure (.error .noFile)
  | (ending, format) :: rest => do
      match ← files.read (path ++ ['.'] ++ ending) with
      | .ok bytes => pure (ofText format (fileText bytes))
      | .error _ => loadWithEnding files path rest

/-- The settings of the file at a path. -/
def load (files : Files m) (path : Text) : m (Except Fault Settings) := do
  match ← files.read path with
  | .ok bytes =>
      match (ending? path).bind fun ending => formats.lookup ending with
      | some format => pure (ofText format (fileText bytes))
      | none => pure (.error .noFile)
  | .error _ => loadWithEnding files path formats

/-- The text of a settings file that holds the defaults. -/
def defaultText : String :=
  "[dictionary]\ncolumns = []\n\n[description]\ncolumns = []\n\n[search]\n" ++
    "via_dictionary  = true\ndirect_fallback = false\n"

/-- The name of the settings file of a user. -/
def fileName : Text :=
  Text.ofString "config.toml"

/-- The settings of the user whose settings files are in a directory. The file is made if it is
missing, and the defaults hold if it cannot be used. -/
def loadOrCreate (files : Files m) (directory : Text) : m Settings := do
  let path := directory ++ ['/'] ++ fileName
  match ← files.read path with
  | .error failure =>
      if failure.isAbsence then
        let _ ← files.create directory fileName defaultText.toUTF8.toList
      pure default
  | .ok bytes =>
      match ofText .toml (fileText bytes) with
      | .ok settings => pure settings
      | .error _ => pure default

end TableSearch.Settings
