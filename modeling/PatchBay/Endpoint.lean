import PatchBay.Driver
import PatchBay.Endpoint.Error

/-!
# Endpoints

An endpoint owns at most one client of a driver and one port of that client. Opening by index and
opening a virtual port share the one port: it is registered if there is none and reused otherwise.
Closing removes the port and keeps the client.

How far an endpoint has come is its *link*. A port has a client, and a connection has a port, by
the shape of the type. An endpoint that was given a handler installs it on its client as soon as it
opens one; if the driver refuses the handler, the endpoint keeps it and closes the client again.

Every operation takes the driver's state and gives an `Outcome`: the result, what the endpoint and
the driver's state are after it, and what happened on the way.
-/

namespace PatchBay

/-- What a connection state is called. -/
inductive ConnectionState where
  /-- There is no client. -/
  | disconnected
  /-- There is a client and no port. -/
  | clientOpen
  /-- There is a port, connected or not. -/
  | portOpen
deriving Repr, DecidableEq, Inhabited

/-- How far an endpoint has come. -/
inductive Link where
  /-- There is no client. -/
  | disconnected
  /-- There is a client and no port. -/
  | clientOpen (client : ClientId)
  /-- There is a port, and a peer if it is connected. -/
  | portOpen (client : ClientId) (port : PortId) (peer : Option Address)
deriving Repr, DecidableEq, Inhabited

namespace Link

/-- The connection state. -/
def state : Link → ConnectionState
  | .disconnected => .disconnected
  | .clientOpen _ => .clientOpen
  | .portOpen .. => .portOpen

/-- The client, if there is one. -/
def client? : Link → Option ClientId
  | .disconnected => none
  | .clientOpen client | .portOpen client .. => some client

/-- The port, if there is one. -/
def port? : Link → Option PortId
  | .portOpen _ port _ => some port
  | _ => none

/-- The peer, if the port is connected. -/
def peer? : Link → Option Address
  | .portOpen _ _ peer => peer
  | _ => none

end Link

/-- The client and port of one endpoint. -/
structure Endpoint (η : Type) where
  /-- Whether the endpoint receives or sends. -/
  direction : Direction
  /-- The name of its client. -/
  clientName : String
  /-- How far it has come. -/
  link : Link := .disconnected
  /-- The handler that waits to be installed. -/
  handler : Option η := none
deriving Repr

/-- What an operation on a `subject` came to. -/
structure Outcome (ω σ η α : Type) where
  /-- The answer. -/
  result : Except PortError α
  /-- The subject after the operation. -/
  subject : ω
  /-- The driver's state after it. -/
  driver : σ
  /-- What was logged, in order. -/
  warnings : List Warning := []
  /-- The batches that the driver delivered on the way, in order. -/
  delivered : List (Delivery η) := []

namespace Outcome

variable {ω ω' σ η α β : Type}

/-- Goes on with a second operation if the first succeeded. -/
def andThen (first : Outcome ω σ η α) (f : α → ω → σ → Outcome ω σ η β) : Outcome ω σ η β :=
  match first.result with
  | .error e => { first with result := .error e }
  | .ok a =>
    let second := f a first.subject first.driver
    { second with
      warnings := first.warnings ++ second.warnings
      delivered := first.delivered ++ second.delivered }

/-- An operation on a part of a larger subject. -/
def within (o : Outcome ω σ η α) (f : ω → ω') : Outcome ω' σ η α :=
  { o with subject := f o.subject }

end Outcome

namespace Endpoint

variable {σ η : Type}

/-- Whether the port is connected to a listed peer. -/
def isConnected (e : Endpoint η) : Bool := e.link.peer?.isSome

/-- Refuses a port name that is too long together with the client name. Lengths are in bytes. -/
def checkName (d : Driver σ η) (e : Endpoint η) (name : String) : Except PortError Unit :=
  match d.nameLimit with
  | none => .ok ()
  | some limit =>
    if limit < e.clientName.utf8ByteSize + 1 + name.utf8ByteSize then
      .error (.invalidName name limit)
    else .ok ()

/-! ## Opening -/

/-- Opens the client if there is none, and installs the handler on it. -/
def ensureClient (d : Driver σ η) (e : Endpoint η) (s : σ) :
    Outcome (Endpoint η) σ η ClientId :=
  match e.link.client? with
  | some client => { result := .ok client, subject := e, driver := s }
  | none =>
    match d.openClient s e.clientName with
    | (.error (.unavailable _), s) =>
      { result := .error .driverUnavailable, subject := e, driver := s,
        warnings := [.driverNotRunning] }
    | (.error err, s) => { result := .error (.ofDriver err), subject := e, driver := s }
    | (.ok client, s) =>
      match e.handler with
      | none =>
        { result := .ok client, subject := { e with link := .clientOpen client }, driver := s }
      | some handler =>
        match d.setHandler s client handler with
        | (.error err, s) =>
          { result := .error (.ofDriver err), subject := e, driver := d.closeClient s client }
        | (.ok (), s) =>
          { result := .ok client,
            subject := { e with link := .clientOpen client, handler := none }, driver := s }

/-- Registers the port if there is none. -/
def ensurePort (d : Driver σ η) (e : Endpoint η) (s : σ) (client : ClientId) (name : String)
    (kind : PortKind) : Outcome (Endpoint η) σ η PortId :=
  match e.link.port? with
  | some port => { result := .ok port, subject := e, driver := s }
  | none =>
    match d.registerPort s client name e.direction kind with
    | (.error err, s) => { result := .error (.ofDriver err), subject := e, driver := s }
    | (.ok port, s) =>
      { result := .ok port, subject := { e with link := .portOpen client port none },
        driver := s }

/-- Checks the name, opens the client if there is none, and registers the port if there is none. -/
def register (d : Driver σ η) (e : Endpoint η) (s : σ) (name : String) (kind : PortKind) :
    Outcome (Endpoint η) σ η PortId :=
  match e.checkName d name with
  | .error err => { result := .error err, subject := e, driver := s }
  | .ok () => (e.ensureClient d s).andThen fun client e s => e.ensurePort d s client name kind

/-- Connects the registered port to the peer at a place in the driver's list. A connection that is
there already stays as it is. -/
def connectPort (d : Driver σ η) (e : Endpoint η) (s : σ) (index : Nat) :
    Outcome (Endpoint η) σ η Unit :=
  match e.link with
  | .portOpen _ _ (some _) =>
    { result := .ok (), subject := e, driver := s, warnings := [.alreadyConnected] }
  | .portOpen client port none =>
    match d.enumerate s e.direction with
    | (peers, s) =>
      let warnings := if peers.isEmpty then [Warning.noPorts] else []
      match peers[index]? with
      | none =>
        { result := .error (.invalidPortIndex index peers.length), subject := e, driver := s,
          warnings }
      | some peer =>
        match d.connect s client port peer.address with
        | (.error err, delivered, s) =>
          { result := .error (.ofDriver err), subject := e, driver := s, warnings, delivered }
        | (.ok (), delivered, s) =>
          { result := .ok (),
            subject := { e with link := .portOpen client port (some peer.address) },
            driver := s, warnings, delivered }
  | _ => { result := .error .notOpen, subject := e, driver := s }

/-- Registers a port if there is none, and connects it to the peer at a place in the driver's
list. -/
def openPort (d : Driver σ η) (e : Endpoint η) (s : σ) (index : Nat) (name : String) :
    Outcome (Endpoint η) σ η Unit :=
  (e.register d s name .connectable).andThen fun _ e s => e.connectPort d s index

/-- Registers a port, if there is none, that others can connect to. -/
def openVirtualPort (d : Driver σ η) (e : Endpoint η) (s : σ) (name : String) :
    Outcome (Endpoint η) σ η Unit :=
  (e.register d s name .virtual).andThen fun _ e s =>
    { result := .ok (), subject := e, driver := s }

/-! ## Closing -/

/-- Removes the port, if there is one, after its connection. -/
def closePort (d : Driver σ η) (e : Endpoint η) (s : σ) : Endpoint η × σ :=
  match e.link with
  | .portOpen client port peer =>
    let s := if peer.isSome then d.disconnect s client port else s
    ({ e with link := .clientOpen client }, d.unregisterPort s client port)
  | _ => (e, s)

/-- Removes the port and closes the client. -/
def shutdown (d : Driver σ η) (e : Endpoint η) (s : σ) : Endpoint η × σ :=
  match e.closePort d s with
  | (e, s) =>
    match e.link.client? with
    | some client => ({ e with link := .disconnected }, d.closeClient s client)
    | none => (e, s)

/-! ## Names -/

/-- The warning that goes with a driver's error. -/
def renameWarnings : DriverError → List Warning
  | .unsupported operation => [.notImplemented operation]
  | _ => []

/-- Renames the registered port. -/
def setPortName (d : Driver σ η) (e : Endpoint η) (s : σ) (name : String) :
    Outcome (Endpoint η) σ η Unit :=
  match e.link with
  | .portOpen client port _ =>
    match e.checkName d name with
    | .error err => { result := .error err, subject := e, driver := s }
    | .ok () =>
      match d.renamePort s client port name with
      | (.error err, s) =>
        { result := .error (.ofDriver err), subject := e, driver := s,
          warnings := renameWarnings err }
      | (.ok (), s) => { result := .ok (), subject := e, driver := s }
  | _ => { result := .error .notOpen, subject := e, driver := s }

/-- Renames the client. Where there is none yet, this changes the name that it will have. -/
def setClientName (d : Driver σ η) (e : Endpoint η) (s : σ) (name : String) :
    Outcome (Endpoint η) σ η Unit :=
  match e.link.client? with
  | none => { result := .ok (), subject := { e with clientName := name }, driver := s }
  | some client =>
    match d.renameClient s client name with
    | (.error err, s) =>
      { result := .error (.ofDriver err), subject := e, driver := s,
        warnings := renameWarnings err }
    | (.ok (), s) => { result := .ok (), subject := { e with clientName := name }, driver := s }

/-! ## Listing -/

/-- The ports that the endpoint could connect to, in the driver's order. -/
def ports (d : Driver σ η) (e : Endpoint η) (s : σ) : List Peer × σ :=
  d.enumerate s e.direction

/-- The name of the port at a place in the driver's list. -/
def portName (d : Driver σ η) (e : Endpoint η) (s : σ) (index : Nat) :
    Except PortError String × σ :=
  match e.ports d s with
  | (peers, s) =>
    match peers[index]? with
    | some peer => (.ok peer.name, s)
    | none => (.error (.invalidPortIndex index peers.length), s)

end Endpoint

end PatchBay
