import PatchBay.Driver

/-!
# A driver that follows a script

A stand-in for a service. It lists the ports it is told to list, hands out handles by counting, and
notes every call. A script says for each operation what becomes of its next calls; a call for which
the script has nothing goes the usual way. It does not check whether clients and ports exist.
-/

namespace PatchBay

/-- A call that a driver got, with what it was given. -/
inductive Call where
  /-- A client was opened. -/
  | openClient (name : String)
  /-- A client was closed. -/
  | closeClient (client : ClientId)
  /-- A handler was installed. -/
  | setHandler (client : ClientId)
  /-- A client was renamed. -/
  | renameClient (client : ClientId) (name : String)
  /-- A port was registered. -/
  | registerPort (client : ClientId) (name : String) (direction : Direction) (kind : PortKind)
  /-- A port was removed. -/
  | unregisterPort (client : ClientId) (port : PortId)
  /-- A port was renamed. -/
  | renamePort (client : ClientId) (port : PortId) (name : String)
  /-- Ports were listed. -/
  | enumerate (direction : Direction)
  /-- A port was connected. -/
  | connect (client : ClientId) (port : PortId) (peer : Address)
  /-- A port was disconnected. -/
  | disconnect (client : ClientId) (port : PortId)
  /-- Bytes were given to encode and transmit. -/
  | transmit (client : ClientId) (port : PortId) (bytes : Bytes)
  /-- An event was encoded and transmitted. -/
  | sent (event : Bytes)
  /-- The queue was drained. -/
  | drain (client : ClientId)
deriving Repr, DecidableEq

namespace Scripted

/-- The operations that a script can speak of. -/
inductive Operation where
  /-- Opening a client. -/
  | openClient
  /-- Installing a handler. -/
  | setHandler
  /-- Renaming a client. -/
  | renameClient
  /-- Registering a port. -/
  | registerPort
  /-- Renaming a port. -/
  | renamePort
  /-- Connecting a port. -/
  | connect
  /-- Encoding and transmitting an event. -/
  | transmit
  /-- Draining the queue. -/
  | drain
deriving Repr, DecidableEq

/-- What becomes of one call. -/
inductive Step where
  /-- What is usual. -/
  | usual
  /-- It fails at once. -/
  | fail (error : DriverError)
  /-- It succeeds, where failing is usual. -/
  | succeed
  /-- So many bytes are used up, without encoding. -/
  | consume (count : Nat)
  /-- It encodes and then fails; an error of the encoder comes first. -/
  | encodeThenFail (error : DriverError)
deriving Repr, DecidableEq

end Scripted

/-- The state of a scripted driver for clients with handlers `η`. -/
structure Scripted (η : Type) where
  /-- The ports it lists. -/
  peers : List Peer := []
  /-- The next client's handle. -/
  nextClient : UInt32 := 1
  /-- The next port's handle. -/
  nextPort : UInt32 := 1
  /-- The events that arrive while a connection is being made. -/
  onConnect : Option (List Bytes) := none
  /-- What becomes of the next calls of each operation. -/
  script : List (Scripted.Operation × List Scripted.Step) := []
  /-- The handlers that clients have installed. -/
  handlers : List (ClientId × η) := []
  /-- The calls it got, the oldest first. -/
  calls : List Call := []
deriving Repr

namespace Scripted

variable {η : Type}

/-- Notes a call. -/
def note (s : Scripted η) (call : Call) : Scripted η := { s with calls := s.calls ++ [call] }

/-- Takes what the script has for the next call of an operation. -/
def take (s : Scripted η) (operation : Operation) : Step × Scripted η :=
  match s.script.lookup operation with
  | some (step :: rest) =>
    (step, { s with
      script := s.script.map fun (o, steps) => if o = operation then (o, rest) else (o, steps) })
  | _ => (.usual, s)

/-- A call that succeeds unless the script says it fails. -/
def attempt (s : Scripted η) (operation : Operation) : Except DriverError Unit × Scripted η :=
  match s.take operation with
  | (.fail e, s) => (.error e, s)
  | (_, s) => (.ok (), s)

/-- A call that fails unless the script says it succeeds. -/
def attemptUnsupported (s : Scripted η) (operation : Operation) (what : String) :
    Except DriverError Unit × Scripted η :=
  match s.take operation with
  | (.fail e, s) => (.error e, s)
  | (.succeed, s) => (.ok (), s)
  | (_, s) => (.error (.unsupported what), s)

/-- Calls the client's handler with a batch, if it has one. -/
def deliver (s : Scripted η) (client : ClientId) (port : PortId) (events : List Bytes) :
    Option (Delivery η) :=
  (s.handlers.lookup client).map fun h => ⟨h, port, events⟩

/-- Opens a client, under the next handle if it succeeds. -/
def openClient (s : Scripted η) (name : String) : Except DriverError ClientId × Scripted η :=
  match (s.note (.openClient name)).attempt .openClient with
  | (.error e, s) => (.error e, s)
  | (.ok (), s) => (.ok ⟨s.nextClient⟩, { s with nextClient := s.nextClient + 1 })

/-- Closes a client, and with it goes its handler. -/
def closeClient (s : Scripted η) (client : ClientId) : Scripted η :=
  let s := s.note (.closeClient client)
  { s with handlers := s.handlers.filter (·.1 ≠ client) }

/-- Installs a handler in place of the one before. -/
def setHandler (s : Scripted η) (client : ClientId) (handler : η) :
    Except DriverError Unit × Scripted η :=
  match (s.note (.setHandler client)).attempt .setHandler with
  | (.error e, s) => (.error e, s)
  | (.ok (), s) =>
    (.ok (), { s with handlers := s.handlers.filter (·.1 ≠ client) ++ [(client, handler)] })

/-- Registers a port, under the next handle if it succeeds. -/
def registerPort (s : Scripted η) (client : ClientId) (name : String) (direction : Direction)
    (kind : PortKind) : Except DriverError PortId × Scripted η :=
  match (s.note (.registerPort client name direction kind)).attempt .registerPort with
  | (.error e, s) => (.error e, s)
  | (.ok (), s) => (.ok ⟨s.nextPort⟩, { s with nextPort := s.nextPort + 1 })

/-- Connects a port. What arrives meanwhile arrives also where it fails. -/
def connect (s : Scripted η) (client : ClientId) (port : PortId) (peer : Address) :
    Except DriverError Unit × List (Delivery η) × Scripted η :=
  let s := s.note (.connect client port peer)
  let delivered := (s.onConnect.bind (s.deliver client port)).toList
  match s.attempt .connect with
  | (result, s) => (result, delivered, s)

/-- Encodes and transmits an event. -/
def transmit (s : Scripted η) (client : ClientId) (port : PortId) (bytes : Bytes)
    (encoder : Encoder) : Except DriverError Nat × Encoder × Scripted η :=
  match (s.note (.transmit client port bytes)).take .transmit with
  | (.fail e, s) => (.error e, encoder, s)
  | (.consume n, s) => (.ok n, encoder, s)
  | (.encodeThenFail e, s) =>
    match encoder.encodeFor bytes with
    | (.error first, encoder) => (.error first, encoder, s)
    | (.ok _, encoder) => (.error e, encoder, s)
  | (_, s) =>
    match encoder.encodeFor bytes with
    | (.error e, encoder) => (.error e, encoder, s)
    | (.ok n, encoder) => (.ok n, encoder, s.note (.sent encoder.event))

/-- The scripted driver, which may pass for any service. -/
def driver (backend : Backend) (nameLimit : Option Nat) : Driver (Scripted η) η where
  backend
  nameLimit
  openClient := openClient
  closeClient := closeClient
  setHandler := setHandler
  renameClient s client name :=
    (s.note (.renameClient client name)).attemptUnsupported .renameClient "renaming a client"
  registerPort := registerPort
  unregisterPort s client port := s.note (.unregisterPort client port)
  renamePort s client port name :=
    (s.note (.renamePort client port name)).attemptUnsupported .renamePort "renaming a port"
  enumerate s direction := (s.peers, s.note (.enumerate direction))
  connect := connect
  disconnect s client port := s.note (.disconnect client port)
  transmit := transmit
  drain s client := (s.note (.drain client)).attempt .drain

end Scripted

end PatchBay
