import SearchBox.CommandLine.Run

/-! The program: it gathers the surroundings of a run and prints what comes of it. -/

namespace SearchBox.CommandLine

def usage : String :=
  "Usage: searchql [--config PATH] [--field NAME:TYPE]... [--format table|json] " ++
    "parse|fmt|sql|tokens QUERY [--column NAME]... [--search-type TYPE]"

/-- Why reading failed. An error names the path if it could not be opened, and does not if it could
not be read from; no program argument holds a NUL character. -/
def readFailure : IO.Error → Settings.ReadFailure
  | .permissionDenied .. => .permissionDenied
  | .inappropriateType (some _) .. => .notDirectory
  | .inappropriateType none .. => .isDirectory
  | .invalidArgument .. => .nameTooLong
  | _ => .notFound

def readText (path : String) : IO (Except Settings.ReadFailure String) := do
  try
    match String.fromUTF8? (← IO.FS.readBinFile path) with
    | some text => return .ok text
    | none => return .error .notText
  catch error => return .error (readFailure error)

/-- Files as they were when the run began. -/
def readFiles (paths : List String) : IO Settings.Files := do
  let known ← paths.mapM fun path => return (path, ← readText path)
  return fun path => ((known.find? fun entry => entry.1 == path).map Prod.snd).getD (.error .notFound)

def userDirectory : IO (Option String) := do
  match ← IO.getEnv "XDG_CONFIG_HOME" with
  | some directory => if directory.startsWith "/" then return some directory
  | none => pure ()
  return (← IO.getEnv "HOME").map (· ++ "/.config")

/-- Colour can be forced or forbidden; otherwise it is for terminals. -/
def wantsColor : IO Color := do
  let forced := ((← IO.getEnv "CLICOLOR_FORCE").getD "0") != "0"
  let forbidden := (← IO.getEnv "NO_COLOR").isSome || (← IO.getEnv "CLICOLOR") == some "0"
  return forced || (!forbidden && (← (← IO.getStdout).isTty))

def runIn (settingsFile : Option String) (arguments : List String) : IO UInt32 := do
  match Invocation.ofArguments? settingsFile arguments with
  | none =>
    IO.eprintln usage
    return 2
  | some invocation =>
    let userDirectory ← userDirectory
    let files ← readFiles (invocation.paths userDirectory)
    let outcome := invocation.run ⟨files, userDirectory, settingsFile, ← wantsColor⟩
    IO.print outcome.out
    IO.eprint outcome.err
    return outcome.status.toUInt32

end SearchBox.CommandLine

def main (arguments : List String) : IO UInt32 := do
  SearchBox.CommandLine.runIn (← IO.getEnv "SEARCHQL_CONFIG") arguments
