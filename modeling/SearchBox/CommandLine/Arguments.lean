import SearchBox.Sql.Options
import SearchBox.Schema

/-! Arguments of the command line. Some options may stand before or after the subcommand, others
only after `sql`. Arguments that do not fit have no meaning at all, whatever their fault. -/

namespace SearchBox.CommandLine

inductive OutputFormat where
  | table
  | json
  deriving DecidableEq, Repr

inductive Command where
  | parse
  | format
  | sql (columns : List String) (searchType : Option Sql.SearchType)
  | tokens
  deriving DecidableEq, Repr

/-- What the arguments ask for. -/
structure Invocation where
  settingsFile : Option String
  /-- Declarations that replace those of the settings, if there are any. -/
  declarations : List Declaration
  output : OutputFormat
  command : Command
  query : String
  deriving DecidableEq, Repr

/-! Options -/

inductive OptionName where
  | config
  | field
  | format
  | verbose
  | column
  | searchType
  deriving DecidableEq, Repr

/-- An option as given, with its value. -/
inductive Given where
  | config (path : String)
  | field (declaration : Declaration)
  | format (output : OutputFormat)
  | verbose
  | column (name : String)
  | searchType (type : Sql.SearchType)
  deriving DecidableEq, Repr

namespace OptionName

/-- The options that may stand anywhere. -/
def anywhere : List OptionName :=
  [config, field, format, verbose]

/-- The options that may stand after `sql`. -/
def afterSql : List OptionName :=
  anywhere ++ [column, searchType]

def long : OptionName → String
  | config => "config"
  | field => "field"
  | format => "format"
  | verbose => "verbose"
  | column => "column"
  | searchType => "search-type"

def short? : OptionName → Option Char
  | config => some 'c'
  | format => some 'f'
  | verbose => some 'v'
  | field | column | searchType => none

/-- The option with its value, if the value is one that it takes. -/
def give? : OptionName → String → Option Given
  | config, value => if value.isEmpty then none else some (.config value)
  | field, value => (Declaration.ofShorthand value).toOption.map .field
  | format, "table" => some (.format .table)
  | format, "json" => some (.format .json)
  | format, _ => none
  | verbose, _ => none
  | column, value => some (.column value)
  | searchType, value => (Sql.SearchType.ofWord? value).map .searchType

end OptionName

/-- What one argument says: options with their values, and perhaps one whose value is still to
come. -/
structure Heard where
  given : List Given
  awaits : Option OptionName

/-- An argument `--name` or `--name=value`, without its dashes. -/
def hearLong? (known : List OptionName) (text : List Char) : Option Heard := do
  let name := text.takeWhile (· != '=')
  let option ← known.find? fun option => option.long.toList == name
  match option, text.dropWhile (· != '=') with
  | .verbose, [] => return ⟨[.verbose], none⟩
  | option, [] => return ⟨[], some option⟩
  | option, _ :: value => return ⟨[← option.give? (String.ofList value)], none⟩

/-- Letters after one dash. A letter whose option has a value takes the rest of the argument, less
an equals sign before it, or the next argument. -/
def hearShort? (known : List OptionName) : List Char → Option Heard
  | [] => some ⟨[], none⟩
  | letter :: rest => do
    let option ← known.find? fun option => option.short? == some letter
    match option, rest with
    | .verbose, rest =>
      let later ← hearShort? known rest
      return ⟨.verbose :: later.given, later.awaits⟩
    | option, [] => return ⟨[], some option⟩
    | option, c :: value =>
      let value := if c == '=' then value else c :: value
      return ⟨[← option.give? (String.ofList value)], none⟩

/-- Whether an argument is taken for an option; a lone dash is not. -/
def looksLikeOption (argument : String) : Bool :=
  argument.toList.head? == some '-' && argument != "-"

def hear? (known : List OptionName) (argument : String) : Option Heard :=
  match argument.toList with
  | '-' :: '-' :: text => hearLong? known text
  | '-' :: text => hearShort? known text
  | _ => none

/-- Options read up to an argument that is none, and the arguments from there on. -/
structure Scan where
  given : List Given
  positional : List String

/-- Reads options before the first argument that is none. -/
def scanLeading? (known : List OptionName) (awaited : Option OptionName) :
    List String → Option Scan
  | [] => if awaited.isNone then some ⟨[], []⟩ else none
  | argument :: arguments => do
    match awaited with
    | some option =>
      guard !looksLikeOption argument
      let given ← option.give? argument
      let later ← scanLeading? known none arguments
      return { later with given := given :: later.given }
    | none =>
      if looksLikeOption argument then
        let heard ← hear? known argument
        let later ← scanLeading? known heard.awaits arguments
        return { later with given := heard.given ++ later.given }
      else return ⟨[], argument :: arguments⟩

/-- Reads options and other arguments in any order; all after `--` are other arguments. -/
def scanMixed? (known : List OptionName) (awaited : Option OptionName) :
    List String → Option Scan
  | [] => if awaited.isNone then some ⟨[], []⟩ else none
  | argument :: arguments => do
    match awaited with
    | some option =>
      guard !looksLikeOption argument
      let given ← option.give? argument
      let later ← scanMixed? known none arguments
      return { later with given := given :: later.given }
    | none =>
      if argument == "--" then return ⟨[], arguments⟩
      else if looksLikeOption argument then
        let heard ← hear? known argument
        let later ← scanMixed? known heard.awaits arguments
        return { later with given := heard.given ++ later.given }
      else
        let later ← scanMixed? known none arguments
        return { later with positional := argument :: later.positional }

/-! Meaning -/

namespace Given

def config? : Given → Option String
  | config path => some path
  | _ => none

def field? : Given → Option Declaration
  | field declaration => some declaration
  | _ => none

def format? : Given → Option OutputFormat
  | format output => some output
  | _ => none

def column? : Given → Option String
  | column name => some name
  | _ => none

def searchType? : Given → Option Sql.SearchType
  | searchType type => some type
  | _ => none

end Given

/-- The one value of an option that may be given once. -/
def atMostOne? {α : Type} : List α → Option (Option α)
  | [] => some none
  | [value] => some (some value)
  | _ => none

/-- The options that may stand anywhere, as given in one of the two places. -/
structure Common where
  config : Option String
  declarations : List Declaration
  format : Option OutputFormat

/-- Collects common options. Without a settings file among them, the one of the environment is
checked in its place. -/
def Common.ofGiven? (environment : Option String) (given : List Given) : Option Common := do
  let config ← atMostOne? (given.filterMap Given.config?)
  let format ← atMostOne? (given.filterMap Given.format?)
  let _ ← atMostOne? (given.filter (· == .verbose))
  guard (config.isSome || environment != some "")
  return ⟨config, given.filterMap Given.field?, format⟩

/-- The command of a name, with the options that only this command has. -/
def command? (name : String) (given : List Given) : Option Command := do
  match name with
  | "parse" => return .parse
  | "fmt" => return .format
  | "tokens" => return .tokens
  | "sql" =>
    return .sql (given.filterMap Given.column?) (← atMostOne? (given.filterMap Given.searchType?))
  | _ => none

/-- Reads all arguments. What is given after the subcommand goes before what is given ahead of it,
and both before the environment. -/
def Invocation.ofArguments? (environment : Option String) (arguments : List String) :
    Option Invocation := do
  let ahead ← scanLeading? OptionName.anywhere none arguments
  let name ← ahead.positional.head?
  let known := if name == "sql" then OptionName.afterSql else OptionName.anywhere
  let after ← scanMixed? known none ahead.positional.tail
  let outer ← Common.ofGiven? environment ahead.given
  let inner ← Common.ofGiven? environment after.given
  let command ← command? name after.given
  match after.positional with
  | [query] =>
    return {
      settingsFile := inner.config <|> outer.config <|> environment
      declarations := if inner.declarations.isEmpty then outer.declarations else inner.declarations
      output := (inner.format <|> outer.format).getD .table
      command := command
      query := query }
  | _ => none

end SearchBox.CommandLine
