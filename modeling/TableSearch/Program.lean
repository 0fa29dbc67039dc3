import TableSearch.CommandLine
import TableSearch.Report
import TableSearch.Settings.Load
import TableSearch.SourceError

/-!
# The program

A run of the program reads its command line, the settings, the tables and the units, in this order,
and ends at the first of them that cannot be used; else it searches and reports. Main definition:
`Program.run`.
-/

namespace TableSearch.Program

/-- How a run ends. -/
structure Ending where
  code : UInt32
  output : Text
  /-- What is written to the error output, if anything. -/
  complaint : Option Text
deriving DecidableEq

/-- The end of a run with unusable files. -/
def failure (message : Text) : Ending :=
  ⟨1, [], some (Text.ofString "Error: " ++ message)⟩

/-- The end of a run with an unusable command line. -/
def refusal (fault : CommandLine.Fault) : Ending :=
  ⟨2, [], some (Text.ofString "error: " ++ fault.message)⟩

/-- The end of a run with a report. -/
def reported (report : Report) (asJson : Bool) : Ending :=
  let output := if asJson then report.toJson.pretty ++ ['\n'] else report.toText
  ⟨if report.isFailure then 2 else 0, output, none⟩

/-- How to run a search that flags ask for. -/
def modeWith (mode : SearchMode) (flags : List CommandLine.Flag) : SearchMode :=
  ⟨mode.viaDictionary && !flags.contains .direct, mode.directFallback || flags.contains .fallback⟩

/-- The report of a search. -/
def report (query : Text) (settings : Settings) (flags : List CommandLine.Flag)
    (dictionary descriptions : Table) (units : List UnitEntry) : Report :=
  let loaded := (Catalog.empty.loadDictionary dictionary units).loadDescriptions descriptions
  let searcher : Searcher := ⟨loaded.current, settings.columnChoices⟩
  let response := searcher.run query (modeWith settings.mode flags)
  .ofResponse query response loaded.current.descriptions

variable {m : Type → Type} [Monad m]

/-- The settings of a request; those of the user's directory cannot fail. -/
def settings (files : Files m) (directory : Text) (request : CommandLine.Request) :
    m (Except Ending Settings) := do
  match request.settings with
  | none => return .ok (← Settings.loadOrCreate files directory)
  | some path =>
      match ← Settings.load files path with
      | .ok settings => return .ok settings
      | .error _ => return .error (failure (Text.ofString "loading config " ++ path))

/-- The delimiter of a request as a byte. -/
def delimiter (request : CommandLine.Request) : Except Ending UInt8 :=
  if request.delimiter.toNat < 256 then .ok (UInt8.ofNat request.delimiter.toNat)
  else .error (failure (Text.ofString "delimiter must be a single-byte character"))

/-- What comes of a file, where a file that cannot be used ends the run. -/
def orFailure {Value : Type} : Except SourceError Value → Except Ending Value
  | .ok value => .ok value
  | .error cause => .error (failure cause.message)

/-- Runs a search. -/
def search (files : Files m) (directory : Text) (request : CommandLine.Request) :
    ExceptT Ending m Ending := do
  let settings ← ExceptT.mk (settings files directory request)
  let delimiter ← ExceptT.mk (pure (delimiter request))
  let table := fun path => do
    let content ← ExceptT.lift (files.read path)
    ExceptT.mk (pure (orFailure (TableFile.ofContent path delimiter content)))
  let dictionary ← table request.dictionary
  let descriptions ← table request.descriptions
  let units ←
    match request.units with
    | none => pure settings.unitEntries
    | some path => do
        let content ← ExceptT.lift (files.read path)
        ExceptT.mk (pure (orFailure (UnitFile.ofContent path content)))
  let report := report request.query settings request.flags dictionary descriptions units
  return reported report (request.flags.contains .json)

/-- Runs the program for a user whose settings files are in a directory. -/
def run (files : Files m) (directory : Text) (arguments : List Text) : m Ending := do
  match CommandLine.read arguments with
  | .error fault => return refusal fault
  | .ok .help => return ⟨0, Text.ofString CommandLine.helpText, none⟩
  | .ok (.search request) =>
      match ← (search files directory request).run with
      | .ok ending => return ending
      | .error ending => return ending

end TableSearch.Program
