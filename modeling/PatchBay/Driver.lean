import PatchBay.Driver.Error

/-!
# Drivers

A driver gives access to one MIDI service: it opens clients, registers their ports, connects the
ports with those of others, and takes events in and out. Here a driver over states `σ` is a record
of functions: each takes the state and gives the state after the call, so that a driver may answer,
fail and change its mind in any way it likes. The services differ in nothing else; endpoints know a
driver only by this record.

Incoming events reach a client through its *handler*. A driver stores a handler and hands it back
with each batch of events that it delivers, and does nothing else with it, so a handler is a value
of any type `η`.
-/

namespace PatchBay

/-- The services there are drivers for. -/
inductive Backend where
  /-- The bus inside this process. -/
  | loopback
  /-- The MIDI service of macOS. -/
  | coreMidi
  /-- The service that the platform's own library gives access to. -/
  | midir
deriving Repr, DecidableEq, Inhabited

/-- The name by which a service is chosen. -/
def Backend.name : Backend → String
  | .loopback => "loopback"
  | .coreMidi => "coremidi"
  | .midir => "midir"

/-- The service with this name. -/
def Backend.ofName? (name : String) : Option Backend :=
  [Backend.loopback, .coreMidi, .midir].find? (·.name == name)

/-- The direction of a port, seen from the client that owns it. -/
inductive Direction where
  /-- The port receives. -/
  | input
  /-- The port emits. -/
  | output
deriving Repr, DecidableEq, Inhabited

/-- The direction of the ports that a port may be connected to. -/
def Direction.peer : Direction → Direction
  | .input => .output
  | .output => .input

@[simp] theorem Direction.peer_peer (d : Direction) : d.peer.peer = d := by
  cases d <;> rfl

/-- How a port is published. -/
inductive PortKind where
  /-- It is meant to be connected to a listed peer. -/
  | connectable
  /-- Others connect to it. -/
  | virtual
deriving Repr, DecidableEq, Inhabited

/-- A handle of an open client. -/
structure ClientId where
  /-- The handle's number. -/
  number : UInt32
deriving Repr, DecidableEq, Inhabited

/-- A handle of a registered port. -/
structure PortId where
  /-- The handle's number. -/
  number : UInt32
deriving Repr, DecidableEq, Inhabited

/-- The name under which a service lists a port for others to connect to. -/
structure Address where
  /-- The name. -/
  text : String
deriving Repr, DecidableEq, Inhabited

/-- A port that is listed for others to connect to. -/
structure Peer where
  /-- What a person is shown: `client:port`. -/
  name : String
  /-- What a connection is asked for with. -/
  address : Address
deriving Repr, DecidableEq, Inhabited

/-- A batch of events on its way to a client. -/
structure Delivery (η : Type) where
  /-- The handler of the client that owns the port. -/
  handler : η
  /-- The port the events arrived at. -/
  port : PortId
  /-- The events, oldest first. A driver may cut a message into several or deliver empty ones. -/
  events : List Bytes
deriving Repr, DecidableEq

/-- A driver over states `σ` for clients with handlers `η`. -/
structure Driver (σ η : Type) where
  /-- Which service this is. -/
  backend : Backend
  /-- The length of the longest name `client:port` that it accepts, if there is a limit. -/
  nameLimit : Option Nat := none
  /-- Opens a client. -/
  openClient : σ → String → Except DriverError ClientId × σ
  /-- Releases a client and every port that it owns. -/
  closeClient : σ → ClientId → σ
  /-- Installs the handler of a client. Where that fails the caller keeps the handler. -/
  setHandler : σ → ClientId → η → Except DriverError Unit × σ
  /-- Renames a client. -/
  renameClient : σ → ClientId → String → Except DriverError Unit × σ :=
    fun s _ _ => (.error (.unsupported "renaming a client"), s)
  /-- Registers a port of a client. -/
  registerPort : σ → ClientId → String → Direction → PortKind → Except DriverError PortId × σ
  /-- Removes a port of a client. -/
  unregisterPort : σ → ClientId → PortId → σ
  /-- Renames a port of a client. -/
  renamePort : σ → ClientId → PortId → String → Except DriverError Unit × σ :=
    fun s _ _ _ => (.error (.unsupported "renaming a port"), s)
  /-- Lists the ports that a port of this direction may be connected to. -/
  enumerate : σ → Direction → List Peer × σ
  /-- Connects a port of a client to a listed peer. Batches may arrive before it returns. -/
  connect : σ → ClientId → PortId → Address →
    Except DriverError Unit × List (Delivery η) × σ
  /-- Drops every connection of a port. -/
  disconnect : σ → ClientId → PortId → σ
  /-- Encodes the first event of some bytes and queues it on a port. Gives how many bytes the event
  used up. -/
  transmit : σ → ClientId → PortId → Bytes → Encoder → Except DriverError Nat × Encoder × σ
  /-- Sends everything that is queued. -/
  drain : σ → ClientId → Except DriverError Unit × σ

/-- Encodes the first event of some bytes, with the errors that a driver reports. -/
def Encoder.encodeFor (e : Encoder) (bytes : Bytes) : Except DriverError Nat × Encoder :=
  ((e.encode bytes).1.mapError .ofEncode, (e.encode bytes).2)

end PatchBay
