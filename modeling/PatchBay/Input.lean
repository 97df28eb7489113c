import PatchBay.Assembler
import PatchBay.Endpoint

/-!
# Inputs

An input is an endpoint with an assembler behind a gate. The gate is opened for the port after it is
registered and before it is connected, so that batches which arrive while the connection is being
made are kept; it is closed before the port is.

What the input hears of the batches that the driver delivers while it connects, it receives there
and then, through the gate as it stands at that point. All of them are given in the outcome as well,
for callers that hand batches over once the call has returned.
-/

namespace PatchBay

/-- How an input is set up. -/
structure Input.Settings where
  /-- The name of its client. -/
  clientName : String := "midilink input client"
  /-- The name of the port that commands open. -/
  portName : String := "midilink input"
  /-- What it drops. -/
  filter : Filter := {}
  /-- How many messages may wait for the client. -/
  queueCapacity : Nat := 100
deriving Repr, DecidableEq, Inhabited

/-- How an input hands out messages. -/
inductive Input.Mode where
  /-- Client code is called with each. -/
  | callback
  /-- They wait in a queue. -/
  | queue
deriving Repr, DecidableEq, Inhabited

/-- An input: an endpoint, a gate and an assembler. -/
structure Input (η : Type) where
  /-- How it was set up. -/
  settings : Input.Settings
  /-- Its client and port. -/
  endpoint : Endpoint η
  /-- What lets batches in. -/
  gate : Gate := {}
  /-- What makes messages of them. -/
  assembler : Assembler

namespace Input

variable {σ η : Type}

/-- Where the messages of an input go. A queue has room for one message at least. -/
def Mode.sink (settings : Settings) : Mode → Sink
  | .callback => .callback []
  | .queue => .ofCapacity (max settings.queueCapacity 1)

/-- A fresh input that receives its batches through `handler`. -/
def ofSettings (settings : Settings) (mode : Mode) (handler : η) : Input η :=
  { settings
    endpoint :=
      { direction := .input, clientName := settings.clientName, handler := some handler }
    assembler := { filter := settings.filter, sink := mode.sink settings } }

/-- Puts an endpoint in place of the input's own. -/
def withEndpoint (i : Input η) (endpoint : Endpoint η) : Input η := { i with endpoint }

/-- Opens the gate for a port. -/
def activate (i : Input η) (port : PortId) : Input η := { i with gate := i.gate.activate port }

/-- Closes the gate. -/
def deactivate (i : Input η) : Input η := { i with gate := i.gate.deactivate }

/-- Processes a batch that the driver delivered on a port. -/
def receive (i : Input η) (port : PortId) (events : List RawEvent) : Input η :=
  { i with assembler := i.assembler.accept i.gate port events }

/-- Processes batches in order. -/
def receiveAll (i : Input η) (batches : List (PortId × List RawEvent)) : Input η :=
  batches.foldl (fun i x => i.receive x.1 x.2) i

/-- Connects to the source at a place in the driver's list. Of the batches that the driver delivers
while it makes the connection, the input receives what it can `hear` before the call returns. -/
def openPort (d : Driver σ η) (i : Input η) (s : σ) (index : Nat) (name : String)
    (hear : List (Delivery η) → List (PortId × List RawEvent) := fun _ => []) :
    Outcome (Input η) σ η Unit :=
  if i.endpoint.isConnected then
    (i.endpoint.openPort d s index name).within i.withEndpoint
  else
    ((i.endpoint.register d s name .connectable).within i.withEndpoint).andThen fun port i s =>
      let i := i.activate port
      let connection := i.endpoint.connectPort d s index
      connection.within (i.receiveAll (hear connection.delivered)).withEndpoint

/-- Publishes a port that others can send to. -/
def openVirtualPort (d : Driver σ η) (i : Input η) (s : σ) (name : String) :
    Outcome (Input η) σ η Unit :=
  ((i.endpoint.register d s name .virtual).within i.withEndpoint).andThen fun port i s =>
    { result := .ok (), subject := i.activate port, driver := s }

/-- Closes the port. -/
def closePort (d : Driver σ η) (i : Input η) (s : σ) : Input η × σ :=
  let i := i.deactivate
  match i.endpoint.closePort d s with
  | (endpoint, s) => (i.withEndpoint endpoint, s)

/-- Ends the input: its port and its client are closed. -/
def shutdown (d : Driver σ η) (i : Input η) (s : σ) : Input η × σ :=
  let i := i.deactivate
  match i.endpoint.shutdown d s with
  | (endpoint, s) => (i.withEndpoint endpoint, s)

/-- Renames the port. -/
def setPortName (d : Driver σ η) (i : Input η) (s : σ) (name : String) :
    Outcome (Input η) σ η Unit :=
  (i.endpoint.setPortName d s name).within i.withEndpoint

/-- Renames the client. -/
def setClientName (d : Driver σ η) (i : Input η) (s : σ) (name : String) :
    Outcome (Input η) σ η Unit :=
  (i.endpoint.setClientName d s name).within i.withEndpoint

/-- Takes the next message out of the queue. With a callback there is none. -/
def next (i : Input η) : Option Message × Input η :=
  let (message, assembler) := i.assembler.receive
  (message, { i with assembler })

/-- Takes all messages out of the queue. -/
def takeAll (i : Input η) : List Message × Input η :=
  let (messages, assembler) := i.assembler.receiveAll
  (messages, { i with assembler })

/-- Takes account of the messages that client code was called with. -/
def takeHanded (i : Input η) : List Message × Input η :=
  let (messages, assembler) := i.assembler.takeHanded
  (messages, { i with assembler })

/-- What was counted. -/
def counters (i : Input η) : Counters := i.assembler.counters

end Input

end PatchBay
