import PatchBay.Config.Yaml
import PatchBay.Config.Toml
import PatchBay.Text.Literal

/-!
# Configuration files

A file's name tells the format of its text by what follows its last dot. A file is written in YAML,
whatever its name.
-/

namespace PatchBay.Config

/-- Why a file could not be read or written. -/
inductive FileProblem where
  /-- There is no such file, or no such directory. -/
  | notFound
  /-- The file is no text in UTF-8. -/
  | notText
  /-- It is a directory. -/
  | isDirectory
  /-- What its path leads through is no directory. -/
  | notDirectory
  /-- What else the operating system tells. -/
  | other (text : String)
deriving Repr, DecidableEq

/-- The problem as it is told to a person. -/
def FileProblem.message : FileProblem → String
  | .notFound => "No such file or directory (os error 2)"
  | .notText => "stream did not contain valid UTF-8"
  | .isDirectory => "Is a directory (os error 21)"
  | .notDirectory => "Not a directory (os error 20)"
  | .other text => text

/-- Why there is no configuration. -/
inductive Error where
  /-- The text is no YAML, or describes no configuration. -/
  | yaml (cause : String)
  /-- The text is no TOML, or describes no configuration. -/
  | toml (cause : String)
  /-- The file could not be read. -/
  | unreadable (path : String) (cause : FileProblem)
  /-- The file could not be written. -/
  | unwritable (path : String) (cause : FileProblem)
  /-- The file's name tells no format. -/
  | unknownFormat (path : String)
deriving Repr, DecidableEq

/-- The error as it is told to a person. -/
def Error.message : Error → String
  | .yaml _ => "Failed to parse YAML configuration"
  | .toml _ => "Failed to parse TOML configuration"
  | .unreadable path _ => "Failed to read config file: " ++ Literal.quoted path
  | .unwritable path _ => "Failed to write config file: " ++ Literal.quoted path
  | .unknownFormat path => "Unsupported config file extension: " ++ Literal.quoted path

/-- What brought the error about. -/
def Error.cause? : Error → Option String
  | .yaml cause => some cause
  | .toml cause => some cause
  | .unreadable _ cause => some cause.message
  | .unwritable _ cause => some cause.message
  | .unknownFormat _ => none

/-- The configuration that a YAML text describes. -/
def ofYaml (text : String) : Except Error Config := (readYaml text).mapError .yaml

/-- The configuration that a TOML text describes. -/
def ofToml (text : String) : Except Error Config := (readToml text).mapError .toml

/-- The name of the file that a path leads to. -/
def fileName? (path : String) : Option String :=
  (path.splitOn "/").reverse.find? fun part => !part.isEmpty && part != "."

/-- What follows the last dot of a file's name. A dot at its start does not count. -/
def extension? (path : String) : Option String := do
  let name ← fileName? path
  let after := name.toList.reverse.takeWhile (· != '.')
  if name == ".." || name.length ≤ after.length + 1 then none
  else some (String.ofList after.reverse)

/-- The configuration that a file describes, whose bytes are given if it could be read. -/
def ofFile (path : String) (bytes : Except FileProblem ByteArray) : Except Error Config := do
  let bytes ← bytes.mapError (.unreadable path)
  match String.fromUTF8? bytes with
  | none => throw (.unreadable path .notText)
  | some text =>
    match extension? path with
    | some "toml" => ofToml text
    | some "yaml" => ofYaml text
    | some "yml" => ofYaml text
    | _ => throw (.unknownFormat path)

end PatchBay.Config
