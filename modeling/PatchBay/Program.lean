import PatchBay.Command.Run
import PatchBay.Config.File

/-!
# The program

The program reads a configuration if its arguments name a file, and runs the command that the other
arguments ask for. What keeps it from doing so, or makes the command fail, is told as an error with
its causes; arguments that ask for nothing are answered by what the program can do.
-/

namespace PatchBay.Program

/-- Why no command was run. -/
inductive StartError where
  /-- There is no path after `--config`. -/
  | missingPath
  /-- There is no configuration. -/
  | config (cause : Config.Error)
  /-- The arguments ask for nothing. -/
  | usage (cause : Command.UsageError)
  /-- There is no driver for the backend. -/
  | unavailable (backend : Backend)
deriving Repr

/-- The error and its causes, the innermost last, as they are told to a person. -/
def StartError.chain : StartError → List String
  | .missingPath => ["--config requires a file path"]
  | .config cause => cause.message :: cause.cause?.toList
  | .usage cause => [cause.message]
  | .unavailable backend => ["The " ++ backend.name ++ " backend is not available in this build"]

/-- What the program comes to. -/
structure Exit where
  /-- What it tells. -/
  lines : List Line := []
  /-- The error that it ends with, if it fails, and its causes, the innermost last. -/
  errors : List String := []
  /-- What it logs. -/
  logLevel : String := "info"

/-! ## Errors -/

/-- A text whose lines after the first have a margin. -/
def withMargin (margin text : String) : String :=
  String.intercalate ("\n" ++ margin) (text.splitOn "\n")

/-- One of several causes, with its number. -/
def numbered (cause : Nat × String) : String :=
  Decimal.padLeft 5 (toString cause.1) ++ ": " ++ withMargin "       " cause.2

/-- Causes, each on a line of its own. A single one has no number. -/
def causesText : List String → String
  | [cause] => "    " ++ withMargin "    " cause
  | causes =>
    String.intercalate "\n" (((List.range causes.length).zip causes).map numbered)

/-- An error and its causes as the program tells them. -/
def errorText : List String → String
  | [] => ""
  | [error] => "Error: " ++ error
  | error :: causes => "Error: " ++ error ++ "\n\nCaused by:\n" ++ causesText causes

/-- The exit code. -/
def Exit.code (e : Exit) : UInt32 := if e.errors.isEmpty then 0 else 1

/-! ## Starting -/

/-- The configuration file that arguments name, and the arguments after it. -/
def configFile? : List String → Except StartError (Option String × List String)
  | ["--config"] => .error .missingPath
  | "--config" :: path :: rest => .ok (some path, rest)
  | arguments => .ok (none, arguments)

/-- The bytes of a file that could be read, with its path. -/
abbrev File := String × Except Config.FileProblem ByteArray

/-- The configuration in a file, or the one that holds without any. -/
def configOf : Option File → Except StartError Config
  | none => .ok {}
  | some (path, bytes) => (Config.ofFile path bytes).mapError .config

/-- The command that arguments ask for, with a configuration whose backend is there. -/
def commandOf (c : Config) (arguments : List String) : Except StartError Command := do
  let command ← (Command.parse arguments).mapError .usage
  if c.backend = .loopback then return command else throw (.unavailable c.backend)

/-- What the program tells besides an error. -/
def StartError.lines : StartError → List Line
  | .usage _ => Command.usage.map .text
  | _ => []

/-- Runs the program, with the file that its arguments name and the arguments after it. -/
def run (file : Option File) (arguments : List String) : Exit :=
  match configOf file with
  | .error e => { lines := e.lines, errors := e.chain }
  | .ok c =>
    match commandOf c arguments with
    | .error e => { lines := e.lines, errors := e.chain, logLevel := c.logLevel }
    | .ok command =>
      let report := command.run c [] {}
      { lines := report.lines
        errors := match report.result with
          | .ok () => []
          | .error failure => failure.chain
        logLevel := c.logLevel }

/-- What the program comes to where its arguments name no file although they should. -/
def refuse (e : StartError) : Exit := { lines := e.lines, errors := e.chain }

end PatchBay.Program
