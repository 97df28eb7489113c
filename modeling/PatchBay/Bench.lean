import PatchBay.Bus
import PatchBay.Driver.Scripted
import PatchBay.Input
import PatchBay.Output

/-!
# The bench

A bench holds endpoints by name, all on one driver and with one clock that is set by hand, so that
what passes between them can be followed call by call. A handler on the bench is a `Listener`: it
says who is called with a batch. Batches that a driver delivers are routed to their listeners; a
recorder writes down what it is called with.
-/

namespace PatchBay

namespace Bench

/-- Whose recorder it is. -/
inductive Label where
  /-- That of an item on the bench. -/
  | item (name : String)
  /-- That of a client which was opened by hand. -/
  | client (client : ClientId)
deriving Repr, DecidableEq

/-- Who is called with a batch. -/
inductive Listener where
  /-- The input of this name. -/
  | input (name : String)
  /-- A recorder. -/
  | recorder (label : Label)
  /-- One that fails when it is called. -/
  | faulty
deriving Repr, DecidableEq

/-- A call that a recorder wrote down. -/
structure Sighting where
  /-- The recorder. -/
  label : Label
  /-- The port that the events arrived at. -/
  port : PortId
  /-- The events. -/
  events : List Bytes
deriving Repr, DecidableEq

/-- What can stand on the bench. -/
inductive Item where
  /-- A bare endpoint. -/
  | endpoint (endpoint : Endpoint Listener)
  /-- An input. -/
  | input (input : Input Listener)
  /-- An output. -/
  | output (output : Output Listener)
  /-- An encoder without an endpoint. -/
  | encoder (encoder : Encoder)

end Bench

open Bench in
/-- A bench on a driver with states `σ`. -/
structure Bench (σ : Type) where
  /-- The driver's state. -/
  driver : σ
  /-- The clock. -/
  clock : Time := {}
  /-- The items by name. -/
  items : List (String × Item) := []
  /-- Encoders, by name, that are used on the driver by hand. -/
  buffers : List (String × Encoder) := []
  /-- What the recorders wrote down, the oldest first. -/
  sightings : List Sighting := []
  /-- What the endpoints logged, the oldest first. -/
  warnings : List Warning := []

namespace Bench

variable {σ α : Type}

/-! ## Items -/

namespace Item

/-- The endpoint of an item. -/
def endpoint? : Item → Option (Endpoint Listener)
  | .endpoint e => some e
  | .input i => some i.endpoint
  | .output o => some o.endpoint
  | .encoder _ => none

/-- Opens a port by its index in the driver's list. -/
def openPort (d : Driver σ Listener) (index : Nat) (name : String) (item : Item) (s : σ) :
    Outcome Item σ Listener Unit :=
  match item with
  | .endpoint e => (e.openPort d s index name).within .endpoint
  | .input i => (i.openPort d s index name).within .input
  | .output o => (o.openPort d s index name).within .output
  | .encoder _ => { result := .error .notOpen, subject := item, driver := s }

/-- Opens a virtual port. -/
def openVirtualPort (d : Driver σ Listener) (name : String) (item : Item) (s : σ) :
    Outcome Item σ Listener Unit :=
  match item with
  | .endpoint e => (e.openVirtualPort d s name).within .endpoint
  | .input i => (i.openVirtualPort d s name).within .input
  | .output o => (o.openVirtualPort d s name).within .output
  | .encoder _ => { result := .error .notOpen, subject := item, driver := s }

/-- Renames the port. -/
def setPortName (d : Driver σ Listener) (name : String) (item : Item) (s : σ) :
    Outcome Item σ Listener Unit :=
  match item with
  | .endpoint e => (e.setPortName d s name).within .endpoint
  | .input i => (i.setPortName d s name).within .input
  | .output o => (o.setPortName d s name).within .output
  | .encoder _ => { result := .error .notOpen, subject := item, driver := s }

/-- Renames the client. -/
def setClientName (d : Driver σ Listener) (name : String) (item : Item) (s : σ) :
    Outcome Item σ Listener Unit :=
  match item with
  | .endpoint e => (e.setClientName d s name).within .endpoint
  | .input i => (i.setClientName d s name).within .input
  | .output o => (o.setClientName d s name).within .output
  | .encoder _ => { result := .error .notOpen, subject := item, driver := s }

/-- Closes the port. -/
def closePort (d : Driver σ Listener) (item : Item) (s : σ) : Item × σ :=
  match item with
  | .endpoint e => (e.closePort d s).map .endpoint id
  | .input i => (i.closePort d s).map .input id
  | .output o => (o.closePort d s).map .output id
  | .encoder _ => (item, s)

/-- Ends an item: its port and its client are closed. -/
def shutdown (d : Driver σ Listener) (item : Item) (s : σ) : Item × σ :=
  match item with
  | .endpoint e => (e.shutdown d s).map .endpoint id
  | .input i => (i.shutdown d s).map .input id
  | .output o => (o.shutdown d s).map .output id
  | .encoder _ => (item, s)

end Item

/-- The item of a name. -/
def item? (b : Bench σ) (name : String) : Option Item := b.items.lookup name

/-- Puts an item in its place, or at the end if the name is new. -/
def putItem (b : Bench σ) (name : String) (item : Item) : Bench σ :=
  if (b.item? name).isSome then
    { b with items := b.items.map fun (n, i) => if n = name then (n, item) else (n, i) }
  else { b with items := b.items ++ [(name, item)] }

/-- Takes an item from the bench and ends it. Says whether there was one. -/
def drop (d : Driver σ Listener) (b : Bench σ) (name : String) : Bool × Bench σ :=
  match b.item? name with
  | none => (false, b)
  | some item =>
    let b := { b with items := b.items.filter (·.1 ≠ name) }
    (true, { b with driver := (item.shutdown d b.driver).2 })

/-- Sets up an item. One of the same name is taken away first. -/
def place (d : Driver σ Listener) (b : Bench σ) (name : String) (item : Item) : Bench σ :=
  (b.drop d name).2.putItem name item

/-! ## Calls -/

/-- Hands a batch to its listener. -/
def route (b : Bench σ) (delivery : Delivery Listener) : Bench σ :=
  match delivery.handler with
  | .recorder label =>
    { b with sightings := b.sightings ++ [⟨label, delivery.port, delivery.events⟩] }
  | .input name =>
    match b.item? name with
    | some (.input i) =>
      b.putItem name (.input (i.receive delivery.port (RawEvent.batch b.clock delivery.events)))
    | _ => b
  | .faulty => b

/-- Hands batches to their listeners in order. -/
def routeAll (b : Bench σ) (deliveries : List (Delivery Listener)) : Bench σ :=
  deliveries.foldl route b

/-- Calls the driver by hand. -/
def call (b : Bench σ) (f : σ → α × σ) : α × Bench σ :=
  match f b.driver with
  | (a, s) => (a, { b with driver := s })

/-- Performs an operation on an item. -/
def perform (b : Bench σ) (name : String) (item : Item)
    (operation : Item → σ → Outcome Item σ Listener α) : Except PortError α × Bench σ :=
  let o := operation item b.driver
  let b := { b with driver := o.driver, warnings := b.warnings ++ o.warnings }
  (o.result, (b.putItem name o.subject).routeAll o.delivered)

/-- Performs an operation on an item that cannot fail. -/
def change (b : Bench σ) (name : String) (item : Item) (operation : Item → σ → Item × σ) :
    Bench σ :=
  let (item, s) := operation item b.driver
  { b with driver := s }.putItem name item

/-- Connects a port by hand. -/
def connect (d : Driver σ Listener) (b : Bench σ) (client : ClientId) (port : PortId)
    (peer : Address) : Except DriverError Unit × Bench σ :=
  match d.connect b.driver client port peer with
  | (result, delivered, s) => (result, { b with driver := s }.routeAll delivered)

/-- The encoder of a name, which is a fresh one if there is none. -/
def buffer (b : Bench σ) (name : String) : Encoder :=
  (b.buffers.lookup name).getD default

/-- Encodes and transmits an event by hand with the encoder of a name. -/
def transmit (d : Driver σ Listener) (b : Bench σ) (client : ClientId) (port : PortId)
    (bytes : Bytes) (name : String) : Except DriverError Nat × Encoder × Bench σ :=
  match d.transmit b.driver client port bytes (b.buffer name) with
  | (result, encoder, s) =>
    (result, encoder,
      { b with driver := s, buffers := (name, encoder) :: b.buffers.filter (·.1 ≠ name) })

/-- Takes what was written down and logged. -/
def takeNotes (b : Bench σ) : (List Sighting × List Warning) × Bench σ :=
  ((b.sightings, b.warnings), { b with sightings := [], warnings := [] })

/-! ## Two drivers -/

/-- Runs the bus's dispatcher until nothing is queued or a listener fails. -/
def settle (b : Bench (Bus Listener)) : Bench (Bus Listener) :=
  let (deliveries, bus) := b.driver.settle (· = .faulty)
  { b with driver := bus }.routeAll deliveries

/-- Has the scripted driver deliver a batch. Says whether the client has a handler. -/
def emit (b : Bench (Scripted Listener)) (client : ClientId) (port : PortId)
    (events : List Bytes) : Bool × Bench (Scripted Listener) :=
  let delivery := b.driver.deliver client port events
  (delivery.isSome, b.routeAll delivery.toList)

end Bench

end PatchBay
