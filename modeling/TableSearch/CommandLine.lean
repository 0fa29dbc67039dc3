import TableSearch.Text.Basic

/-!
# The command line

Options with a value, flags and one query are given in any order, each at most once. The value of an
option stands behind an equals sign or is the next argument; behind `--` every argument is a query.
-/

namespace TableSearch.CommandLine

/-- The options with a value. -/
inductive ValueOption where
  | dictionary
  /-- The path of the table that is searched. -/
  | descriptions
  | units
  | settings
  /-- The character between the fields of table files. -/
  | delimiter
deriving DecidableEq

/-- The flags. -/
inductive Flag where
  | direct
  /-- To search directly where the dictionary leads to no row. -/
  | fallback
  | json
  | debug
deriving DecidableEq

/-- What is asked of the program. -/
structure Request where
  query : Text
  dictionary : Text
  /-- The path of the table that is searched. -/
  descriptions : Text
  /-- The path of the unit file, if one is named. -/
  units : Option Text
  /-- The path of the settings file, if one is named. -/
  settings : Option Text
  /-- The character between the fields of table files. -/
  delimiter : Char
  flags : List Flag
deriving DecidableEq

/-- What a command line asks for. -/
inductive Command where
  | search (request : Request)
  | help
deriving DecidableEq

/-- What is wrong with a command line. -/
inductive Fault where
  | unknownOption (argument : Text)
  /-- An option has no value, or one that it cannot have. -/
  | badValue (option : ValueOption)
  | flagWithValue (argument : Text)
  | repeatedOption (option : ValueOption)
  | repeatedFlag (flag : Flag)
  | secondQuery (argument : Text)
  /-- An option that has to be given is not. -/
  | missingOption (option : ValueOption)
deriving DecidableEq

/-- The name of an option. -/
def ValueOption.name : ValueOption → String
  | .dictionary => "dictionary"
  | .descriptions => "descriptions"
  | .units => "units"
  | .settings => "config"
  | .delimiter => "delimiter"

/-- The name of a flag. -/
def Flag.name : Flag → String
  | .direct => "direct"
  | .fallback => "fallback"
  | .json => "json"
  | .debug => "debug"

/-- What a user is told of a fault. -/
def Fault.message : Fault → Text
  | .unknownOption argument => Text.ofString "unknown option " ++ argument
  | .badValue option => Text.ofString ("no usable value for --" ++ option.name)
  | .flagWithValue argument => Text.ofString "a flag takes no value: " ++ argument
  | .repeatedOption option => Text.ofString ("--" ++ option.name ++ " is given twice")
  | .repeatedFlag flag => Text.ofString ("--" ++ flag.name ++ " is given twice")
  | .secondQuery argument => Text.ofString "more than one query: " ++ argument
  | .missingOption option => Text.ofString ("--" ++ option.name ++ " is missing")

/-- What an argument is. -/
inductive Argument where
  /-- An option with its value, if that stands in the same argument. -/
  | valueOption (option : ValueOption) (value : Option Text)
  | flag (flag : Flag)
  | help
  | endOfOptions
  | plain
  | bad (fault : Fault)

/-- What an argument with a name behind its dashes is. -/
def Argument.ofName (argument name : Text) (value : Option Text) : Argument :=
  let isNamed := fun known => decide (name = Text.ofString known)
  let options := [ValueOption.dictionary, .descriptions, .units, .settings, .delimiter]
  let flags := [Flag.direct, .fallback, .json, .debug]
  match options.find? (fun known => isNamed known.name),
      flags.find? (fun known => isNamed known.name) with
  | some found, _ => .valueOption found value
  | none, some found => if value.isSome then .bad (.flagWithValue argument) else .flag found
  | none, none =>
      if !isNamed "help" then .bad (.unknownOption argument)
      else if value.isSome then .bad (.flagWithValue argument)
      else .help

/-- What an argument is. -/
def Argument.ofText (argument : Text) : Argument :=
  match argument with
  | ['-', '-'] => .endOfOptions
  | '-' :: '-' :: long =>
      let name := long.takeWhile (· ≠ '=')
      match long.drop name.length with
      | _ :: value => ofName argument name (some value)
      | [] => ofName argument name none
  | '-' :: 'h' :: _ => .help
  | '-' :: _ :: _ => .bad (.unknownOption argument)
  | _ => .plain

/-- What has been read of a command line. -/
structure Draft where
  query : Option Text
  values : List (ValueOption × Text)
  flags : List Flag

namespace Draft

/-- Before the first argument. -/
def empty : Draft :=
  ⟨none, [], []⟩

/-- The value of an option. -/
def value? (draft : Draft) (option : ValueOption) : Option Text :=
  draft.values.lookup option

/-- Whether an option can have a value. -/
def canHave (option : ValueOption) (value : Text) : Bool :=
  match option with
  | .delimiter => value.length = 1
  | _ => !value.isEmpty

/-- The draft with an option. -/
def addValue (draft : Draft) (option : ValueOption) (value : Text) : Except Fault Draft :=
  if (draft.value? option).isSome then .error (.repeatedOption option)
  else if canHave option value then
    .ok { draft with values := draft.values ++ [(option, value)] }
  else .error (.badValue option)

/-- The draft with a flag. -/
def addFlag (draft : Draft) (flag : Flag) : Except Fault Draft :=
  if draft.flags.contains flag then .error (.repeatedFlag flag)
  else .ok { draft with flags := draft.flags ++ [flag] }

/-- The draft with a query. -/
def addQuery (draft : Draft) (query : Text) : Except Fault Draft :=
  if draft.query.isSome then .error (.secondQuery query)
  else .ok { draft with query := some query }

/-- The value of an option that has to be given. -/
def required (draft : Draft) (option : ValueOption) : Except Fault Text :=
  match draft.value? option with
  | some value => .ok value
  | none => .error (.missingOption option)

/-- The request of a whole command line. -/
def request (draft : Draft) : Except Fault Request := do
  let dictionary ← draft.required .dictionary
  let descriptions ← draft.required .descriptions
  return {
    query := draft.query.getD []
    dictionary := dictionary
    descriptions := descriptions
    units := draft.value? .units
    settings := draft.value? .settings
    delimiter := ((draft.value? .delimiter).bind List.head?).getD ','
    flags := draft.flags }

end Draft

/-- Whether an argument may be the value of the option before it. -/
def isValue (argument : Text) : Bool :=
  match argument with
  | '-' :: _ :: _ => false
  | _ => true

/-- What the arguments ask for behind those that a draft was read from. -/
def readFrom (draft : Draft) : List Text → Except Fault Command
  | [] => do return .search (← draft.request)
  | argument :: rest =>
      match Argument.ofText argument with
      | .valueOption option (some value) => do readFrom (← draft.addValue option value) rest
      | .valueOption option none =>
          match rest with
          | [] => .error (.badValue option)
          | value :: rest =>
              if isValue value then do readFrom (← draft.addValue option value) rest
              else .error (.badValue option)
      | .flag flag => do readFrom (← draft.addFlag flag) rest
      | .help => .ok .help
      | .endOfOptions => do
          let draft ← rest.foldlM Draft.addQuery draft
          return .search (← draft.request)
      | .plain => do readFrom (← draft.addQuery argument) rest
      | .bad fault => .error fault

/-- What the arguments of a command line ask for. -/
def read (arguments : List Text) : Except Fault Command :=
  readFrom .empty arguments

/-- The description of the command line. -/
def helpText : String :=
  "Dictionary-mediated table search\n\n" ++
    "Usage: tabmatch [OPTIONS] --dictionary <DICTIONARY> --descriptions <DESCRIPTIONS> " ++
    "[QUERY]\n\n" ++
    "Arguments:\n" ++
    "  [QUERY]  Query in the tabmatch mini-language (\x60a + b\x60, \x60a | b\x60, \x60#c\x60, " ++
    "\x60>10W\x60, \x601-5\x60) [default: ]\n\n" ++
    "Options:\n" ++
    "      --dictionary <DICTIONARY>\n" ++
    "          Dictionary table (CSV with a header row)\n" ++
    "      --descriptions <DESCRIPTIONS>\n" ++
    "          Description table (CSV with a header row)\n" ++
    "      --units <UNITS>\n" ++
    "          Unit synonyms as a JSON object of canonical → synonyms\n" ++
    "      --config <CONFIG>\n" ++
    "          Configuration file (defaults to ~/.config/tabmatch/config.toml)\n" ++
    "      --delimiter <DELIMITER>\n" ++
    "          CSV field delimiter [default: ,]\n" ++
    "      --direct\n" ++
    "          Skip the dictionary and search the descriptions directly\n" ++
    "      --fallback\n" ++
    "          Fall back to a direct search when the dictionary yields no hits\n" ++
    "      --json\n" ++
    "          Print the result as JSON\n" ++
    "      --debug\n" ++
    "          Write debug logs to /tmp/tabmatch-debug.log (tail -f to inspect)\n" ++
    "  -h, --help\n" ++
    "          Print help\n"

end TableSearch.CommandLine
