import PatchBay.Program

/-!
# The command line

Reads the file that the arguments name, runs the program and prints what it tells.
-/

namespace PatchBay.CommandLine

/-- What the operating system tells about a file. -/
def problemOf : IO.Error → Config.FileProblem
  | .noFileOrDirectory .. => .notFound
  | .inappropriateType _ 20 _ => .notDirectory
  | .inappropriateType .. => .isDirectory
  | e => .other (toString e)

/-- Reads a file. -/
def readFile (path : String) : IO (Except Config.FileProblem ByteArray) := do
  try
    return .ok (← IO.FS.readBinFile path)
  catch e => return .error (problemOf e)

/-- Whether warnings are logged at a level. -/
def logsWarnings (level : String) : Bool := ["warn", "info", "debug", "trace"].contains level

/-- Prints a line. -/
def printLine (level : String) : Line → IO Unit
  | .text text => IO.println text
  | .message before message after => IO.println (before ++ message.render ++ after)
  | .warning warning => do
    if logsWarnings level then IO.println ("WARN " ++ warning.message)
  | .pause milliseconds => do
    (← IO.getStdout).flush
    IO.sleep (UInt32.ofNat milliseconds)

/-- Runs the program with the file that its arguments name. -/
def runWith (arguments : List String) : IO Program.Exit := do
  match Program.configFile? arguments with
  | .error e => return Program.refuse e
  | .ok (none, rest) => return Program.run none rest
  | .ok (some path, rest) => return Program.run (some (path, ← readFile path)) rest

/-- Tells what the program came to. -/
def print (exit : Program.Exit) : IO UInt32 := do
  let level := (← IO.getEnv "RUST_LOG").getD exit.logLevel
  exit.lines.forM (printLine level)
  if !exit.errors.isEmpty then IO.eprintln (Program.errorText exit.errors)
  return exit.code

end PatchBay.CommandLine

/-- The program. -/
def main (arguments : List String) : IO UInt32 := do
  PatchBay.CommandLine.print (← PatchBay.CommandLine.runWith arguments)
