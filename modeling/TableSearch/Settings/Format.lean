import TableSearch.Json.Read
import TableSearch.Settings
import TableSearch.Toml.Document
import TableSearch.Yaml.Document

/-!
# Formats of settings files

A settings file is written in TOML, JSON or YAML. Its outermost value is a table, which is laid
over the defaults.
-/

namespace TableSearch.Settings

/-- The formats of settings files. -/
inductive Format where
  | toml
  | json
  | yaml
deriving DecidableEq

/-- What is wrong with a settings file. -/
inductive Fault where
  /-- There is no file, or its name does not tell its format. -/
  | noFile
  /-- The text is not of its format, or its outermost value is no table. -/
  | malformed
  /-- A value is of the wrong kind. -/
  | wrongKind (report : Setting.Mismatch)

/-- What a user is told of a fault, where the fault lies in a value. -/
def Fault.message? : Fault → Option Text
  | .wrongKind report => some (Text.ofString "configuration error: " ++ report.message)
  | _ => none

/-- The entries of the outermost table of a text. -/
def Format.read (format : Format) (text : Text) : Option (List (Text × Setting)) :=
  match format with
  | .toml => Toml.read text
  | .yaml => Yaml.read text
  | .json =>
      match Json.read text with
      | .ok (.object fields) => some (Setting.entriesOfJson fields)
      | _ => none

/-- The settings of a text. -/
def ofText (format : Format) (text : Text) : Except Fault Settings :=
  match format.read text with
  | none => .error .malformed
  | some entries =>
      match ofEntries entries with
      | .ok settings => .ok settings
      | .error report => .error (.wrongKind report)

end TableSearch.Settings
