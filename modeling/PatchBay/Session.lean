import PatchBay.Bus
import PatchBay.Input
import PatchBay.Message.Kind
import PatchBay.Output

/-!
# Sessions

A session is what a command works on: a bus, one input and one output, and the lines that the
command has told so far. Each step may fail; what it did until then stays done. The bus's dispatcher
runs only when the session lets it, so that a session fixes one order of all that happens.
-/

namespace PatchBay

/-- A line that a command tells, or what comes between two lines. -/
inductive Line where
  /-- A text. -/
  | text (text : String)
  /-- A message, with what stands before and after it. -/
  | message (before : String) (message : Message) (after : String)
  /-- A warning, which is logged. -/
  | warning (warning : Warning)
  /-- Nothing for a while. -/
  | pause (milliseconds : Nat)
deriving Repr

/-- The bytes of a message as they are listed. -/
def Line.bytesText (bytes : Bytes) : String := Literal.list (bytes.map Hex.byte)

/-- Why a command failed. -/
inductive Failure where
  /-- The source could not be opened. -/
  | source (index : Nat) (cause : PortError)
  /-- The virtual port could not be opened. -/
  | virtualPort (name : String) (cause : PortError)
  /-- The destination could not be opened. -/
  | destination (index : Nat) (cause : PortError)
  /-- The bytes could not be sent. -/
  | data (cause : SendError)
  /-- A port that nobody asked for could not be opened. -/
  | port (cause : PortError)
  /-- A message that nobody asked for could not be sent. -/
  | message (cause : SendError)
  /-- A message did not come back. -/
  | timedOut (received sent : Nat)
  /-- Other messages came back. -/
  | mismatch (sent received : List Bytes)
deriving Repr

namespace Failure

/-- An error and its cause, as they are told to a person. -/
def ofSend (e : SendError) : List String := e.message :: (e.cause?.map DriverError.message).toList

/-- The failure and its causes, the innermost last, as they are told to a person. -/
def chain : Failure → List String
  | .source index cause => ["Failed to open MIDI source " ++ toString index, cause.message]
  | .virtualPort name cause => ["Failed to open virtual port " ++ name, cause.message]
  | .destination index cause =>
    ["Failed to open MIDI destination " ++ toString index, cause.message]
  | .data cause => "Failed to send MIDI data" :: ofSend cause
  | .port cause => [cause.message]
  | .message cause => ofSend cause
  | .timedOut received sent =>
    ["Timed out after " ++ toString received ++ " of " ++ toString sent ++ " messages"]
  | .mismatch sent received =>
    ["Round trip mismatch: sent " ++ Literal.list (sent.map Line.bytesText) ++ ", received "
      ++ Literal.list (received.map Line.bytesText)]

end Failure

/-- A session. -/
structure Session where
  /-- The bus. -/
  bus : Bus Unit := {}
  /-- The time. -/
  clock : Time := {}
  /-- The input, once there is one. -/
  input : Option (Input Unit) := none
  /-- The output, once there is one. -/
  output : Option (Output Unit) := none
  /-- The lines so far. -/
  lines : List Line := []

namespace Session

/-- The bus of a session as a driver. -/
def driver : Driver (Bus Unit) Unit := Bus.driver {}

/-- Adds a line. -/
def tell (s : Session) (line : Line) : Session := { s with lines := s.lines ++ [line] }

/-! ## The dispatcher -/

/-- Hands a batch to the input. -/
def receive (s : Session) (delivery : Delivery Unit) : Session :=
  { s with
    input := s.input.map (·.receive delivery.port (RawEvent.batch s.clock delivery.events)) }

/-- Lets the dispatcher handle one batch. -/
def dispatch (s : Session) : Session :=
  match s.bus.dispatch with
  | (delivery, bus) => delivery.toList.foldl receive { s with bus }

/-- Lets the dispatcher handle some batches. -/
def dispatchMany : Nat → Session → Session
  | 0, s => s
  | n + 1, s => dispatchMany n s.dispatch

/-- Lets the dispatcher handle all batches that are queued. -/
def settle (s : Session) : Session := dispatchMany s.bus.queue.length s

/-! ## Messages -/

/-- Takes the next message from the input. -/
def next (s : Session) : Option Message × Session :=
  match s.input.map Input.next with
  | some (message, input) => (message, { s with input := some input })
  | none => (none, s)

/-- Waits for a message while the dispatcher handles at most so many batches. -/
def awaitWithin : Nat → Session → Option Message × Session
  | 0, s => s.next
  | n + 1, s =>
    match s.next with
    | (some message, s) => (some message, s)
    | (none, s) => awaitWithin n s.dispatch

/-- Waits for a message until the dispatcher has nothing left to do. -/
def await (s : Session) : Option Message × Session := awaitWithin s.bus.queue.length s

/-- Takes all messages from the input. -/
def takeAll (s : Session) : List Message × Session :=
  match s.input.map Input.takeAll with
  | some (messages, input) => (messages, { s with input := some input })
  | none => ([], s)

/-! ## Steps -/

/-- A step of a session, which may fail. -/
abbrev Step := ExceptT Failure (StateM Session)

/-- Tells a text. -/
def say (text : String) : Step Unit := modify (·.tell (.text text))

/-- What the input says about an operation on it. -/
def withInput (failure : PortError → Failure) (input : Input Unit)
    (operation : Input Unit → Bus Unit → Outcome (Input Unit) (Bus Unit) Unit Unit) :
    Step Unit := do
  let o := operation input (← get).bus
  modify fun s =>
    let s := { s with
      bus := o.driver, input := some o.subject, lines := s.lines ++ o.warnings.map .warning }
    o.delivered.foldl receive s
  match o.result with
  | .ok () => return
  | .error e => throw (failure e)

/-- What the output says about an operation on it. -/
def withOutput (failure : PortError → Failure) (output : Output Unit)
    (operation : Output Unit → Bus Unit → Outcome (Output Unit) (Bus Unit) Unit Unit) :
    Step Unit := do
  let o := operation output (← get).bus
  modify fun s =>
    let s := { s with
      bus := o.driver, output := some o.subject, lines := s.lines ++ o.warnings.map .warning }
    o.delivered.foldl receive s
  match o.result with
  | .ok () => return
  | .error e => throw (failure e)

/-- Sends bytes with the output. -/
def emit (failure : SendError → Failure) (bytes : Bytes) : Step Unit := do
  let s ← get
  match s.output with
  | none => throw (failure .portClosed)
  | some output =>
    match output.send driver s.bus bytes with
    | (result, output, bus) =>
      set { s with bus, output := some output }
      match result with
      | .ok () => return
      | .error e => throw (failure e)

/-- Ends a session: its input and its output are closed, and the dispatcher does what is left. -/
def finish (s : Session) : Session :=
  let bus := (s.input.map fun i => (i.shutdown driver s.bus).2).getD s.bus
  let bus := (s.output.map fun o => (o.shutdown driver bus).2).getD bus
  settle { s with bus, input := none, output := none }

end Session

end PatchBay
