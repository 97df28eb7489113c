import PatchBay.Byte
import PatchBay.Text.Decimal
import PatchBay.Text.Hex

/-!
# Commands

What the program can be asked to do, and how its arguments ask for it. Ports are named by their
places in the lists of sources and destinations, bytes in hexadecimal with or without `0x`.
Arguments that a command has no use for are left alone.
-/

namespace PatchBay

/-- What the program is asked to do. -/
inductive Command where
  /-- List the ports that an input can connect to. -/
  | listSources
  /-- List the ports that an output can connect to. -/
  | listDestinations
  /-- Print what a source emits. -/
  | monitor (source : Nat)
  /-- Print what reaches a port of this name. -/
  | monitorVirtual (name : String)
  /-- Send bytes to a destination. -/
  | send (destination : Nat) (bytes : Bytes)
  /-- Send a note to a destination. -/
  | testNote (destination : Nat)
  /-- Send messages over a bus and check what comes back. -/
  | selfTest
  /-- Tell what the program can do. -/
  | help
deriving Repr, DecidableEq

namespace Command

/-- Why arguments ask for nothing. -/
inductive UsageError where
  /-- There is no such option. -/
  | unknownOption (option : String)
  /-- An option lacks its number. -/
  | missingNumber (option what : String)
  /-- What stands for a number is none. -/
  | badNumber (what argument : String)
  /-- There is no name for the port. -/
  | missingName
  /-- There is nothing to send. -/
  | missingBytes
  /-- What stands for a byte is none. -/
  | badByte (argument : String)
deriving Repr, DecidableEq

/-- The error as it is told to a person. -/
def UsageError.message : UsageError → String
  | .unknownOption option => "Unknown option: " ++ option
  | .missingNumber option what => option ++ " requires a " ++ what ++ " number"
  | .badNumber what argument => "Invalid " ++ what ++ " number: " ++ argument
  | .missingName => "--monitor-virtual requires a port name"
  | .missingBytes => "--send requires at least one byte"
  | .badByte argument => "Invalid hex byte: " ++ argument

/-- The number that an option's first argument gives. -/
def number (option what : String) : List String → Except UsageError Nat
  | [] => .error (.missingNumber option what)
  | argument :: _ =>
    match Decimal.atMost? Decimal.maxWord argument with
    | some n => .ok n
    | none => .error (.badNumber what argument)

/-- Removes every zero with this letter after it from the start of a text. -/
def dropMarks (letter : Char) : List Char → List Char
  | '0' :: c :: rest => if c = letter then dropMarks letter rest else '0' :: c :: rest
  | cs => cs

/-- The byte that an argument gives. -/
def byte (argument : String) : Except UsageError UInt8 :=
  match Hex.byte? (dropMarks 'X' (dropMarks 'x' argument.toList)) with
  | some b => .ok b
  | none => .error (.badByte argument)

/-- The bytes that arguments give, at least one. -/
def bytes : List String → Except UsageError Bytes
  | [] => .error .missingBytes
  | arguments => arguments.mapM byte

/-- The command that arguments ask for. Without any it is the one for help. -/
def parse : List String → Except UsageError Command
  | [] => .ok .help
  | option :: rest =>
    match option with
    | "--list-sources" => .ok .listSources
    | "--list-destinations" => .ok .listDestinations
    | "--monitor" => (number option "source" rest).map .monitor
    | "--monitor-virtual" =>
      match rest with
      | [] => .error .missingName
      | name :: _ => .ok (.monitorVirtual name)
    | "--send" => do
      let destination ← number option "destination" rest
      return .send destination (← bytes rest.tail)
    | "--test-note" => (number option "destination" rest).map .testNote
    | "--self-test" => .ok .selfTest
    | "--help" => .ok .help
    | "-h" => .ok .help
    | _ => .error (.unknownOption option)

/-- What the program can do, line by line. -/
def usage : List String :=
  ["midilink - backend-agnostic MIDI I/O",
    "",
    "Usage: midilink [--config <FILE>] <COMMAND>",
    "",
    "Commands:",
    "  --list-sources            List ports an input can connect to",
    "  --list-destinations       List ports an output can connect to",
    "  --monitor <N>             Print messages from source N",
    "  --monitor-virtual <NAME>  Open a virtual input port and print what arrives",
    "  --send <N> <HEX>...       Send raw bytes (e.g. 90 40 7F) to destination N",
    "  --test-note <N>           Send a test note to destination N",
    "  --self-test               Round trip a few messages over the loopback bus",
    "  --help                    Show this help message",
    "",
    "RUST_LOG overrides the configured log level."]

end Command

end PatchBay
