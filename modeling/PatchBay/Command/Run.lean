import PatchBay.Command
import PatchBay.Config
import PatchBay.Session

/-!
# Running commands

A command runs on a bus as a session that is ended when the command is. Monitoring prints what
arrives in thirty seconds; a bus inside one process has nobody else to play on it, so what is played
meanwhile is given. The self test has a bus of its own.
-/

namespace PatchBay

namespace Command

open Session

/-! ## Listing -/

/-- The line that lists a port. -/
def peerLine (place : Nat × Peer) : String := "  " ++ toString place.1 ++ ": " ++ place.2.name

/-- Lists ports, which are called `what`. -/
def list (what : String) (peers : List Peer) : Step Unit := do
  if peers.isEmpty then say ("No MIDI " ++ what ++ " found.")
  else
    say ("Available MIDI " ++ what ++ " (" ++ driver.backend.name ++ "):")
    for place in (List.range peers.length).zip peers do
      say (peerLine place)

/-- The ports that an endpoint can connect to. -/
def peersOf (endpoint : Endpoint Unit) : Step (List Peer) := do
  let (peers, bus) := endpoint.ports driver (← get).bus
  modify fun s => { s with bus }
  return peers

/-- Lists sources. -/
def sources (c : Config) : Step Unit := do
  list "sources" (← peersOf (Input.ofSettings c.input .queue ()).endpoint)

/-- Lists destinations. -/
def destinations (c : Config) : Step Unit := do
  list "destinations" (← peersOf (Output.ofSettings c.output).endpoint)

/-! ## Monitoring -/

/-- How long to monitor, in seconds. -/
def monitorSeconds : Nat := 30

/-- The line for a message that arrived. -/
def messageLine (m : Message) : Line :=
  .message "" m ((m.kind?.map fun kind => "  " ++ kind.describe).getD "")

/-- Prints all messages that arrived. -/
def printMessages (s : Session) : Session :=
  match s.takeAll with
  | (messages, s) => messages.foldl (fun s m => s.tell (messageLine m)) s

/-- Emits a batch from a source, and prints what arrives. -/
def playBatch (source : Address) (events : List Bytes) (s : Session) : Session :=
  printMessages (settle { s with bus := (s.bus.inject source events).2 })

/-- The line that sums up what was counted. -/
def summary (c : Counters) : String :=
  "Monitor complete: " ++ toString c.delivered ++ " delivered, " ++ toString c.suppressed
    ++ " filtered, " ++ toString (c.dropped + c.overflows) ++ " dropped"

/-- Prints what arrives while batches are played from a source, and sums up. -/
def watch (source : Option Address) (played : List (List Bytes)) : Step Unit := do
  match source with
  | some source => modify fun s => played.foldl (fun s events => playBatch source events s) s
  | none => pure ()
  modify (·.tell (.pause (1000 * monitorSeconds)))
  modify printMessages
  say ""
  match (← get).input with
  | some input => say (summary input.counters)
  | none => pure ()

/-- Prints what a source emits. -/
def monitorSource (c : Config) (played : List (List Bytes)) (index : Nat) : Step Unit := do
  let input := Input.ofSettings c.input .queue ()
  let peers ← peersOf input.endpoint
  let name := (peers[index]?.map Peer.name).getD ""
  say ("Connecting to MIDI source " ++ toString index ++ " " ++ name ++ "...")
  withInput (.source index) input fun i bus => i.openPort driver bus index c.input.portName
  say ("Monitoring MIDI input for " ++ toString monitorSeconds ++ "s...")
  watch ((← get).input.bind (·.endpoint.link.peer?)) played

/-- Adds a source to the bus that is connected to a port. -/
def feed (port : PortId) : Step Address := do
  let (source, bus) := (← get).bus.addSource "player"
  let connected :=
    match Bus.portAt? source with
    | some own => (bus.connect Bus.system own (Bus.address port)).2
    | none => bus
  modify fun s => { s with bus := connected }
  return source

/-- Prints what reaches a port of this name. -/
def monitorPort (c : Config) (played : List (List Bytes)) (name : String) : Step Unit := do
  let input := Input.ofSettings c.input .queue ()
  withInput (.virtualPort name) input fun i bus => i.openVirtualPort driver bus name
  say ("Virtual port '" ++ name ++ "' open, monitoring for " ++ toString monitorSeconds ++ "s...")
  match played, (← get).input.bind (·.endpoint.link.port?) with
  | _ :: _, some port => watch (some (← feed port)) played
  | _, _ => watch none played

/-! ## Sending -/

/-- Opens an output to a destination. -/
def openDestination (c : Config) (index : Nat) : Step Unit := do
  say ("Connecting to MIDI destination " ++ toString index ++ "...")
  withOutput (.destination index) (Output.ofSettings c.output) fun o bus =>
    o.openPort driver bus index c.output.portName

/-- Sends bytes to a destination. -/
def sendBytes (c : Config) (index : Nat) (bytes : Bytes) : Step Unit := do
  openDestination c index
  emit .data bytes
  say ("Sent " ++ toString bytes.length ++ " bytes")

/-- Sends a note to a destination, and ends it half a second later. -/
def sendNote (c : Config) (index : Nat) : Step Unit := do
  openDestination c index
  let note : UInt8 := 60
  let velocity : UInt8 := 100
  say ("Sending test note (Middle C, velocity " ++ toString velocity ++ ")...")
  emit .message [0x90, note, velocity]
  say "Note On sent"
  modify (·.tell (.pause 500))
  emit .message [0x80, note, 0]
  say "Note Off sent"
  say "Test complete!"

/-! ## The self test -/

/-- The messages of the self test. -/
def testMessages : List Bytes :=
  [[0x90, 0x40, 0x7F], [0xF0, 0x7E, 0x7F, 0x06, 0x01, 0xF7], [0x80, 0x40, 0x00]]

/-- Receives as many messages as were sent, one after the other. `pace n` is the number of batches
that the dispatcher handles before the step with the number `n`. -/
def receiveAll (pace : Nat → Nat) (sent : Nat) : Nat → List Bytes → Step (List Bytes)
  | 0, received => return received
  | left + 1, received => do
    let (message, s) := (dispatchMany (pace (sent + received.length)) (← get)).await
    set s
    match message with
    | none => throw (.timedOut received.length sent)
    | some m =>
      modify (·.tell (.message "  " m ""))
      receiveAll pace sent left (received ++ [m.bytes])

/-- Sends messages from a virtual output to an input, and checks that they come back. Nothing that
the configuration drops is dropped here. -/
def testRoundTrip (pace : Nat → Nat) (c : Config) : Step Unit := do
  withOutput .port (Output.ofSettings c.output) fun o bus =>
    o.openVirtualPort driver bus c.output.portName
  let settings := { c.input with filter := { c.input.filter with ignoreSysex := false } }
  withInput .port (Input.ofSettings settings .queue ()) fun i bus =>
    i.openPort driver bus 0 c.input.portName
  for (bytes, n) in testMessages.zipIdx do
    modify (dispatchMany (pace n))
    emit .message bytes
  let count := testMessages.length
  let received ← receiveAll pace count count []
  if received = testMessages then
    say ("Self test passed: " ++ toString count ++ " messages round tripped")
  else throw (.mismatch testMessages received)

/-! ## Commands -/

/-- What came of a command. -/
structure Report where
  /-- What it told. -/
  lines : List Line
  /-- Whether it failed. -/
  result : Except Failure Unit
  /-- The bus after it. -/
  bus : Bus Unit

/-- Runs steps as a session on a bus. -/
def report (steps : Step Unit) (bus : Bus Unit) : Report :=
  let (result, s) := steps.run { bus }
  { lines := s.lines, result, bus := s.finish.bus }

/-- Runs the self test. Its bus is gone afterwards. -/
def selfTestReport (pace : Nat → Nat) (c : Config) : Report := report (testRoundTrip pace c) {}

/-- Runs a command on a bus. While it monitors, the batches `played` are emitted. -/
def run (c : Config) (played : List (List Bytes)) (bus : Bus Unit) : Command → Report
  | .listSources => report (sources c) bus
  | .listDestinations => report (destinations c) bus
  | .monitor source => report (monitorSource c played source) bus
  | .monitorVirtual name => report (monitorPort c played name) bus
  | .send destination bytes => report (sendBytes c destination bytes) bus
  | .testNote destination => report (sendNote c destination) bus
  | .selfTest => { selfTestReport (fun _ => 0) c with bus }
  | .help => { lines := usage.map .text, result := .ok (), bus }

end Command

end PatchBay
