import TableSearch.Program

/-!
# Running the program

The program runs on the files of the system; the settings files of a user are in the directory that
the environment names.
-/

namespace TableSearch

/-- The number that the system has for a failure. -/
def systemNumber (code : UInt32) : Nat :=
  if code.toNat < 0x80000000 then code.toNat else 0x100000000 - code.toNat

/-- Why a file of the system cannot be read. -/
def readFailureOf (error : IO.Error) : ReadFailure :=
  match error with
  | .noFileOrDirectory _ _ _ => .notFound
  | .inappropriateType _ code _ =>
      if systemNumber code = 20 then .notDirectory else .isDirectory
  | .permissionDenied _ code _ => .other "Permission denied" (systemNumber code)
  | other => .other (toString other) 0

/-- Access to the files of the system. -/
def systemFiles : Files IO where
  read := fun path => do
    try
      let bytes ← IO.FS.readBinFile (String.ofList path)
      return .ok bytes.toList
    catch error => return .error (readFailureOf error)
  create := fun directory name bytes => do
    try
      IO.FS.createDirAll (String.ofList directory)
      IO.FS.writeBinFile (String.ofList (directory ++ ['/'] ++ name)) ⟨bytes.toArray⟩
      return true
    catch _ => return false

/-- The directory of the settings files of the user. -/
def settingsDirectory : IO Text := do
  let base ←
    match ← IO.getEnv "XDG_CONFIG_HOME" with
    | some path => pure path
    | none => pure (((← IO.getEnv "HOME").getD ".") ++ "/.config")
  return Text.ofString (base ++ "/tabmatch")

end TableSearch

/-- Runs the program with the arguments of its command line. -/
def main (arguments : List String) : IO UInt32 := do
  let directory ← TableSearch.settingsDirectory
  let ending ← TableSearch.Program.run TableSearch.systemFiles directory
    (arguments.map TableSearch.Text.ofString)
  IO.print (String.ofList ending.output)
  match ending.complaint with
  | some complaint => IO.eprintln (String.ofList complaint)
  | none => pure ()
  return ending.code
