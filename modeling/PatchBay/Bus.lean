import PatchBay.Driver
import PatchBay.Text.Decimal

/-!
# The bus

A MIDI service inside this process. Clients register ports, ports are subscribed to one another, and
events travel from a source, which is an output port, to the destinations that are subscribed to it.

What a client transmits waits in its outbox until the client drains it. Draining moves the events to
the dispatch queue in batches, one for each run of events to one destination. The dispatcher takes
batches from the queue one at a time, whenever it gets to run, and hands each to the handler of the
client that owns the destination. A batch whose destination is gone by then is dropped.

One client is always there: the *system client* owns ports that stand for hardware. What a source of
its emits is injected from outside; what reaches a destination of its is captured.
-/

namespace PatchBay

namespace Bus

/-- A registered port. -/
structure Port where
  /-- The client that registered it. -/
  owner : ClientId
  /-- Its name within the client. -/
  name : String
  /-- Whether it receives or emits. -/
  direction : Direction
deriving Repr, DecidableEq

/-- An event that waits in an outbox. -/
structure Pending where
  /-- The client that transmitted it. -/
  sender : ClientId
  /-- The port it is for. -/
  destination : PortId
  /-- The event. -/
  event : Bytes
deriving Repr, DecidableEq

/-- Events on their way to one port. -/
structure Batch where
  /-- The client that owned the port when the batch was queued. -/
  client : ClientId
  /-- The port. -/
  port : PortId
  /-- The events, oldest first. -/
  events : List Bytes
deriving Repr, DecidableEq

/-- What the bus complains about. -/
inductive Fault where
  /-- There is no client with this handle. -/
  | unknownClient (client : ClientId)
  /-- Two sources or two destinations cannot be connected. -/
  | sameDirection
  /-- Only a source transmits. -/
  | notAnOutput
  /-- A handler failed, and the dispatcher with it. -/
  | dispatcherStopped
deriving Repr, DecidableEq

/-- A complaint as a driver reports it. -/
def Fault.toError : Fault → DriverError
  | .unknownClient client => .backend ("unknown client " ++ toString client.number)
  | .sameDirection => .backend "cannot connect two ports of the same direction"
  | .notAnOutput => .backend "port is not an output"
  | .dispatcherStopped => .backend "loopback dispatcher thread has stopped"

/-- The client that owns the hardware ports. -/
def system : ClientId := ⟨0⟩

end Bus

/-- A bus for clients with handlers `η`. Clients and ports take their handles from one counter, and
are kept in the order of their handles. -/
structure Bus (η : Type) where
  /-- Whether new clients are let in. -/
  available : Bool := true
  /-- The next handle. -/
  nextId : UInt32 := 1
  /-- The open clients with their names. -/
  clients : List (ClientId × String) := [(Bus.system, "Loopback")]
  /-- The handlers that clients have installed. -/
  handlers : List (ClientId × η) := []
  /-- The registered ports. -/
  ports : List (PortId × Bus.Port) := []
  /-- Pairs of a source and a destination, the oldest first. -/
  subscriptions : List (PortId × PortId) := []
  /-- What was transmitted and not yet drained, the oldest first. -/
  outbox : List Bus.Pending := []
  /-- What was drained or injected and not yet dispatched, the oldest first. -/
  queue : List Bus.Batch := []
  /-- What reached hardware destinations, the oldest first. -/
  captured : List (PortId × Bytes) := []
  /-- Whether the dispatcher runs. -/
  dispatching : Bool := true
deriving Repr

namespace Bus

variable {η : Type}

instance : Inhabited (Bus η) := ⟨{}⟩

/-! ## Looking things up -/

/-- The port, if it is the client's own. -/
def ownPort (b : Bus η) (client : ClientId) (port : PortId) : Except DriverError Port :=
  match b.ports.lookup port with
  | some entry => if entry.owner = client then .ok entry else .error .unknownPort
  | none => .error .unknownPort

/-- Whether the port is the client's own. -/
def owns (b : Bus η) (client : ClientId) (port : PortId) : Bool :=
  (b.ports.lookup port).any (·.owner = client)

/-- Whether the client is open. -/
def hasClient (b : Bus η) (client : ClientId) : Bool :=
  (b.clients.lookup client).isSome

/-- The name under which a port is listed. -/
def fullName (b : Bus η) (entry : Port) : String :=
  (b.clients.lookup entry.owner).getD "?" ++ ":" ++ entry.name

/-- The address under which a port is listed. -/
def address (port : PortId) : Address := ⟨toString port.number⟩

/-- The port with an address. A leading `+` and leading zeros do no harm. -/
def portAt? (a : Address) : Option PortId :=
  (Decimal.atMost? (Nat.pow 2 32 - 1) a.text).map fun n => ⟨UInt32.ofNat n⟩

/-- The destinations that are subscribed to a source. -/
def destinations (b : Bus η) (source : PortId) : List PortId :=
  (b.subscriptions.filter (·.1 = source)).map (·.2)

/-! ## Clients -/

/-- Uses up a handle. -/
def takeId (b : Bus η) : UInt32 × Bus η := (b.nextId, { b with nextId := b.nextId + 1 })

/-- Opens a client. -/
def openClient (b : Bus η) (name : String) : Except DriverError ClientId × Bus η :=
  if b.available then
    (.ok ⟨b.nextId⟩, { b.takeId.2 with clients := b.clients ++ [(⟨b.nextId⟩, name)] })
  else (.error (.unavailable "loopback bus is offline"), b)

/-- Removes a port, its subscriptions and what it captured. -/
def removePort (b : Bus η) (port : PortId) : Bus η :=
  { b with
    ports := b.ports.filter (·.1 ≠ port)
    subscriptions := b.subscriptions.filter fun s => s.1 ≠ port ∧ s.2 ≠ port
    captured := b.captured.filter (·.1 ≠ port) }

/-- The ports that a client owns. -/
def portsOf (b : Bus η) (client : ClientId) : List PortId :=
  (b.ports.filter (·.2.owner = client)).map (·.1)

/-- Closes a client, with its handler, its ports and its outbox. The system client stays. -/
def closeClient (b : Bus η) (client : ClientId) : Bus η :=
  if client = system then b
  else
    let b := (b.portsOf client).foldl removePort b
    { b with
      handlers := b.handlers.filter (·.1 ≠ client)
      outbox := b.outbox.filter (·.sender ≠ client)
      clients := b.clients.filter (·.1 ≠ client) }

/-- Installs the handler of a client in place of the one before. -/
def setHandler (b : Bus η) (client : ClientId) (handler : η) : Except DriverError Unit × Bus η :=
  if b.hasClient client then
    (.ok (), { b with handlers := b.handlers.filter (·.1 ≠ client) ++ [(client, handler)] })
  else (.error (Fault.unknownClient client).toError, b)

/-! ## Ports -/

/-- Adds a port under the next handle. -/
def addPort (b : Bus η) (entry : Port) : PortId × Bus η :=
  (⟨b.nextId⟩, { b.takeId.2 with ports := b.ports ++ [(⟨b.nextId⟩, entry)] })

/-- Registers a port of a client. -/
def registerPort (b : Bus η) (client : ClientId) (name : String) (direction : Direction) :
    Except DriverError PortId × Bus η :=
  if b.hasClient client then
    let added := b.addPort ⟨client, name, direction⟩
    (.ok added.1, added.2)
  else (.error (Fault.unknownClient client).toError, b)

/-- Removes a port of a client. -/
def unregisterPort (b : Bus η) (client : ClientId) (port : PortId) : Bus η :=
  if b.owns client port then b.removePort port else b

/-- Renames a port of a client. -/
def renamePort (b : Bus η) (client : ClientId) (port : PortId) (name : String) :
    Except DriverError Unit × Bus η :=
  match b.ownPort client port with
  | .error e => (.error e, b)
  | .ok _ =>
    (.ok (), { b with
      ports := b.ports.map fun (p, entry) =>
        if p = port then (p, { entry with name }) else (p, entry) })

/-- Lists the ports that a port of this direction may be connected to. -/
def enumerate (b : Bus η) (direction : Direction) : List Peer :=
  (b.ports.filter (·.2.direction = direction.peer)).map fun (port, entry) =>
    ⟨b.fullName entry, address port⟩

/-- The subscription between a port of this direction and its peer: source first. -/
def subscription (direction : Direction) (port peer : PortId) : PortId × PortId :=
  match direction with
  | .input => (peer, port)
  | .output => (port, peer)

/-- Connects a port of a client to a peer. A connection that is there already stays as it is. -/
def connect (b : Bus η) (client : ClientId) (port : PortId) (peer : Address) :
    Except DriverError Unit × Bus η :=
  match portAt? peer with
  | none => (.error .unknownPort, b)
  | some peer =>
    match b.ownPort client port with
    | .error e => (.error e, b)
    | .ok own =>
      match b.ports.lookup peer with
      | none => (.error .unknownPort, b)
      | some other =>
        if other.direction ≠ own.direction.peer then (.error Fault.sameDirection.toError, b)
        else
          let s := subscription own.direction port peer
          (.ok (), if s ∈ b.subscriptions then b
            else { b with subscriptions := b.subscriptions ++ [s] })

/-- Drops every connection of a port of a client. -/
def disconnect (b : Bus η) (client : ClientId) (port : PortId) : Bus η :=
  if b.owns client port then
    { b with subscriptions := b.subscriptions.filter fun s => s.1 ≠ port ∧ s.2 ≠ port }
  else b

/-! ## Output -/

/-- Encodes the first event of some bytes, and puts it into the client's outbox once for each
destination of the port. -/
def transmit (b : Bus η) (client : ClientId) (port : PortId) (bytes : Bytes) (encoder : Encoder) :
    Except DriverError Nat × Encoder × Bus η :=
  match b.ownPort client port with
  | .error e => (.error e, encoder, b)
  | .ok own =>
    if own.direction ≠ .output then (.error Fault.notAnOutput.toError, encoder, b)
    else
      match encoder.encodeFor bytes with
      | (.error e, encoder) => (.error e, encoder, b)
      | (.ok n, encoder) =>
        (.ok n, encoder, { b with
          outbox := b.outbox ++ (b.destinations port).map fun d => ⟨client, d, encoder.event⟩ })

/-- Puts batches into the dispatch queue. -/
def enqueue (b : Bus η) (batches : List Batch) : Except DriverError Unit × Bus η :=
  if b.dispatching || batches.isEmpty then (.ok (), { b with queue := b.queue ++ batches })
  else (.error Fault.dispatcherStopped.toError, b)

/-- A batch for a port, if the port is there. -/
def batchFor? (b : Bus η) (port : PortId) (events : List Bytes) : Option Batch :=
  (b.ports.lookup port).map fun entry => ⟨entry.owner, port, events⟩

/-- Events of an outbox, grouped by runs of one destination. -/
def runs : List Pending → List (PortId × List Bytes)
  | [] => []
  | p :: rest =>
    match runs rest with
    | [] => [(p.destination, [p.event])]
    | (d, events) :: more =>
      if d = p.destination then (d, p.event :: events) :: more
      else (p.destination, [p.event]) :: (d, events) :: more

/-- Moves the client's outbox to the dispatch queue. -/
def drain (b : Bus η) (client : ClientId) : Except DriverError Unit × Bus η :=
  let waiting := b.outbox.filter (·.sender = client)
  let rest := { b with outbox := b.outbox.filter (·.sender ≠ client) }
  rest.enqueue ((runs waiting).filterMap fun (port, events) => rest.batchFor? port events)

/-! ## Hardware ports -/

/-- Lets new clients in, or keeps them out. -/
def setAvailable (b : Bus η) (available : Bool) : Bus η := { b with available }

/-- Adds a hardware source, which others can read from. -/
def addSource (b : Bus η) (name : String) : Address × Bus η :=
  let added := b.addPort ⟨system, name, .output⟩
  (address added.1, added.2)

/-- Adds a hardware destination, which captures what it receives. -/
def addDestination (b : Bus η) (name : String) : Address × Bus η :=
  let added := b.addPort ⟨system, name, .input⟩
  (address added.1, added.2)

/-- Removes a hardware port. -/
def removeSystemPort (b : Bus η) (a : Address) : Bus η :=
  match portAt? a with
  | none => b
  | some port => b.unregisterPort system port

/-- Emits one batch of fragments from a hardware source. -/
def inject (b : Bus η) (source : Address) (events : List Bytes) :
    Except DriverError Unit × Bus η :=
  match portAt? source with
  | none => (.error .unknownPort, b)
  | some port =>
    match b.ownPort system port with
    | .error e => (.error e, b)
    | .ok _ => b.enqueue ((b.destinations port).filterMap fun d => b.batchFor? d events)

/-- Everything that a hardware destination captured, the oldest first. -/
def received (b : Bus η) (destination : Address) : List Bytes :=
  match portAt? destination with
  | none => []
  | some port => (b.captured.filter (·.1 = port)).map (·.2)

/-! ## The dispatcher -/

/-- What becomes of a batch that leaves the queue. -/
def deliver (b : Bus η) (batch : Batch) : Option (Delivery η) × Bus η :=
  match b.ports.lookup batch.port with
  | none => (none, b)
  | some entry =>
    if entry.owner = system then
      (none, { b with captured := b.captured ++ batch.events.map fun e => (batch.port, e) })
    else
      ((b.handlers.lookup batch.client).map fun h => ⟨h, batch.port, batch.events⟩, b)

/-- One step of the dispatcher: it takes a batch from the queue, if there is one. -/
def dispatch (b : Bus η) : Option (Delivery η) × Bus η :=
  match b.queue with
  | [] => (none, b)
  | batch :: rest => { b with queue := rest }.deliver batch

/-- The end of the dispatcher, after a handler failed. What is queued is lost. -/
def halt (b : Bus η) : Bus η := { b with queue := [], dispatching := false }

/-- Delivers batches until there are none or a handler `fails`. -/
def deliverAll (fails : η → Bool) : List Batch → Bus η → List (Delivery η) × Bus η
  | [], b => ([], b)
  | batch :: rest, b =>
    match b.deliver batch with
    | (none, b) => deliverAll fails rest b
    | (some d, b) =>
      if fails d.handler then ([], b.halt)
      else
        let more := deliverAll fails rest b
        (d :: more.1, more.2)

/-- Runs the dispatcher until the queue is empty or a handler `fails`. -/
def settle (fails : η → Bool) (b : Bus η) : List (Delivery η) × Bus η :=
  deliverAll fails b.queue { b with queue := [] }

/-! ## The bus as a driver -/

/-- How a bus is set up. -/
structure Settings where
  /-- The length of the longest name `client:port`. -/
  nameLimit : Nat := 256
  /-- Whether ports may be renamed. -/
  canRename : Bool := true
deriving Repr, DecidableEq, Inhabited

/-- The bus as a driver. It makes no distinction between kinds of ports, and clients keep their
names. -/
def driver (settings : Settings) : Driver (Bus η) η where
  backend := .loopback
  nameLimit := some settings.nameLimit
  openClient := openClient
  closeClient := closeClient
  setHandler := setHandler
  registerPort b client name direction _ := b.registerPort client name direction
  unregisterPort := unregisterPort
  renamePort b client port name :=
    if settings.canRename then b.renamePort client port name
    else (.error (.unsupported "renaming a port"), b)
  enumerate b direction := (b.enumerate direction, b)
  connect b client port peer :=
    let done := b.connect client port peer
    (done.1, [], done.2)
  disconnect := disconnect
  transmit := transmit
  drain := drain

end Bus

end PatchBay
