import SearchBox.CommandLine.Arguments
import SearchBox.CommandLine.Diagnostics
import SearchBox.CommandLine.Listing
import SearchBox.Expression.Canonical
import SearchBox.Settings.File

/-! A run of the command line as a function of its arguments and surroundings. -/

namespace SearchBox.CommandLine

/-- What a run depends on besides its arguments. -/
structure Surroundings where
  files : Settings.Files
  /-- The directory of the user's configuration. -/
  userDirectory : Option String
  /-- The settings file named by the environment. -/
  settingsFile : Option String
  color : Color

/-- What a run leaves behind. -/
structure Outcome where
  status : Nat
  out : String
  err : String
  deriving DecidableEq, Repr

inductive Failure where
  | settings (error : Settings.LoadError)
  /-- Settings that were not asked for by name. -/
  | foundSettings (error : Settings.LoadError)
  | query (error : QueryError)
  | compile (error : Sql.CompileError)
  deriving DecidableEq, Repr

/-- The messages of a failure, from the outermost cause to the innermost. -/
def Failure.chain : Failure → List String
  | settings error => error.message :: error.source?.toList
  | foundSettings error =>
    "Failed to load configuration" :: error.message :: error.source?.toList
  | query error => [toString error.diagnostics.length ++ " problem(s) in query"]
  | compile error => [error.message]

def unlines (lines : List String) : String :=
  String.join (lines.map fun line => line ++ "\n")

/-- The files that an invocation may read its settings from. -/
def Invocation.paths (invocation : Invocation) (userDirectory : Option String) : List String :=
  match invocation.settingsFile with
  | some path => [path]
  | none => Settings.candidates userDirectory

/-- The settings of an invocation. -/
def Invocation.settings (invocation : Invocation) (surroundings : Surroundings) :
    Except Failure Settings := do
  let settings ←
    match invocation.settingsFile with
    | some path => (Settings.load surroundings.files path).mapError .settings
    | none =>
      (Settings.discover surroundings.files surroundings.userDirectory).mapError .foundSettings
  if invocation.declarations.isEmpty then return settings
  else return { settings with schema := ⟨invocation.declarations⟩ }

def readQuery (settings : Settings) (query : String) : Except Failure Query :=
  (Query.parse settings.limits settings.schema query).mapError .query

/-- The lines of a parsed query. -/
def parseOutput (color : Color) (output : OutputFormat) (query : Query) : List String :=
  match output, query.expression? with
  | .json, none => [Json.pretty .null]
  | .json, some expression => [(expressionJson expression).pretty]
  | .table, none => [paint color .dimmed "(empty query)"]
  | .table, some expression => expressionLines color 0 expression

/-- The canonical text of a query; that of a blank one is empty. -/
def formatOutput (output : OutputFormat) (query : Query) : List String :=
  let text := (query.expression?.map Expression.text).getD ""
  match output with
  | .json => [String.ofList (Json.quote text)]
  | .table => [text]

/-- The statement for a query; columns and search type replace those of the settings if given. -/
def compileOutput (color : Color) (output : OutputFormat) (settings : Settings)
    (columns : List String) (searchType : Option Sql.SearchType) (query : Query) :
    Except Failure (List String) := do
  let columns := if columns.isEmpty then settings.columns else columns
  let options := { settings.sql with searchType := searchType.getD settings.sql.searchType }
  let statement ← (Sql.compileQuery options settings.schema columns query).mapError .compile
  match output with
  | .json => return [(statementJson statement).pretty]
  | .table => return statementLines color statement

def tokensOutput (color : Color) (output : OutputFormat) (query : String) : List String :=
  match output with
  | .json => [Json.pretty (.array ((tokenize query).map tokenJson))]
  | .table => tokenLines color (tokenize query)

def Invocation.output? (invocation : Invocation) (surroundings : Surroundings) :
    Except Failure (List String) := do
  let settings ← invocation.settings surroundings
  let color := surroundings.color
  match invocation.command with
  | .parse => return parseOutput color invocation.output (← readQuery settings invocation.query)
  | .format => return formatOutput invocation.output (← readQuery settings invocation.query)
  | .sql columns searchType =>
    compileOutput color invocation.output settings columns searchType
      (← readQuery settings invocation.query)
  | .tokens => return tokensOutput color invocation.output invocation.query

/-- The lines that tell a failure. -/
def failureLines (color : Color) (query : String) (failure : Failure) : List String :=
  let diagnostics :=
    match failure with
    | .query error => diagnosticLines color query error.diagnostics
    | _ => []
  diagnostics ++ [paint color .boldRed "Error:" ++ " " ++ ": ".intercalate failure.chain]

def Invocation.run (invocation : Invocation) (surroundings : Surroundings) : Outcome :=
  match invocation.output? surroundings with
  | .ok lines => ⟨0, unlines lines, ""⟩
  | .error failure => ⟨1, "", unlines (failureLines surroundings.color invocation.query failure)⟩

/-- The outcome of a run, or nothing if the arguments make no sense. -/
def run? (surroundings : Surroundings) (arguments : List String) : Option Outcome :=
  (Invocation.ofArguments? surroundings.settingsFile arguments).map fun invocation =>
    invocation.run surroundings

end SearchBox.CommandLine
