import SearchBox.Settings.Document

/-! Where settings are found: in the file that is named, or else in the first that exists of a file
in the working directory and one in the directory of the user's configuration. -/

namespace SearchBox.Settings

/-- Why a file cannot be read. -/
inductive ReadFailure where
  | notFound
  | permissionDenied
  | notDirectory
  | isDirectory
  | nameTooLong
  /-- The path holds a NUL character. -/
  | notAPath
  | notText
  deriving DecidableEq, Repr

def ReadFailure.message : ReadFailure → String
  | notFound => "No such file or directory (os error 2)"
  | permissionDenied => "Permission denied (os error 13)"
  | notDirectory => "Not a directory (os error 20)"
  | isDirectory => "Is a directory (os error 21)"
  | nameTooLong => "File name too long (os error 36)"
  | notAPath => "file name contained an unexpected NUL byte"
  | notText => "stream did not contain valid UTF-8"

inductive LoadError where
  | unreadable (path : String) (failure : ReadFailure)
  | malformed (path : String)
  deriving DecidableEq, Repr

def LoadError.message : LoadError → String
  | unreadable path failure => s!"Failed to read {path}: {failure.message}"
  | malformed path => s!"Invalid config in {path}"

/-- What lies under the error, where it says more than the error itself. -/
def LoadError.source? : LoadError → Option String
  | unreadable _ failure => some failure.message
  | malformed _ => none

/-- Files by their paths, as text. -/
abbrev Files := String → Except ReadFailure String

def load (files : Files) (path : String) : Except LoadError Settings :=
  match files path with
  | .error failure => .error (.unreadable path failure)
  | .ok document =>
    match ofToml? document with
    | some settings => .ok settings
    | none => .error (.malformed path)

/-- The file that is looked for in the working directory. -/
def localFile : String :=
  "searchql.toml"

/-- The file that is looked for in the directory of the user's configuration. -/
def userFile (directory : String) : String :=
  directory ++ "/searchql/config.toml"

/-- The paths that settings are looked for at, in this order. -/
def candidates (userDirectory : Option String) : List String :=
  localFile :: (userDirectory.map userFile).toList

/-- Whether there is a file at the path, readable or not. -/
def isFile (files : Files) (path : String) : Bool :=
  match files path with
  | .ok _ | .error .permissionDenied | .error .notText => true
  | .error _ => false

/-- Loads the first candidate that is a file; without one, the settings are the default ones. -/
def discover (files : Files) (userDirectory : Option String) : Except LoadError Settings :=
  match (candidates userDirectory).find? (isFile files) with
  | some path => load files path
  | none => .ok default

end SearchBox.Settings
