import PatchBay.Endpoint

/-!
# Outputs

Sending takes event after event from the front of the bytes, transmits each, and drains the driver's
queue once when all bytes are used up. The encoder is first made large enough for all the bytes, so
that a SysEx inside them leaves in one piece. A failure while events are taken leaves the encoder
without running status and without an open SysEx, since the event that set them may never have gone
out.
-/

namespace PatchBay

/-- What became of sending. -/
structure Sent (σ : Type) where
  /-- The number of events that went out, or why not all did. -/
  result : Except SendError Nat
  /-- The encoder afterwards. -/
  encoder : Encoder
  /-- The driver's state afterwards. -/
  driver : σ

namespace Encoder

variable {σ η : Type}

/-- Transmits events from the front of `rest` until it is used up, after `events` events that used
up `offset` bytes. -/
def transmitAll (d : Driver σ η) (client : ClientId) (port : PortId) (offset events : Nat)
    (rest : Bytes) (encoder : Encoder) (s : σ) : Sent σ :=
  match rest with
  | [] => ⟨.ok events, encoder, s⟩
  | first :: more =>
    match d.transmit s client port (first :: more) encoder with
    | (.error e, encoder, s) => ⟨.error (.ofTransmit offset e), encoder.reset, s⟩
    | (.ok 0, encoder, s) => ⟨.error (.stalled offset), encoder.reset, s⟩
    | (.ok (n + 1), encoder, s) =>
      transmitAll d client port (offset + (n + 1)) (events + 1) (more.drop n) encoder s
termination_by rest.length
decreasing_by
  simp only [List.length_drop, List.length_cons]
  omega

/-- Sends all of `bytes`. Sending nothing does nothing. -/
def send (d : Driver σ η) (client : ClientId) (port : PortId) (bytes : Bytes) (encoder : Encoder)
    (s : σ) : Sent σ :=
  if bytes = [] then ⟨.ok 0, encoder, s⟩
  else
    match encoder.reserve bytes.length with
    | (.error e, encoder) => ⟨.error (.resize e.required), encoder, s⟩
    | (.ok _, encoder) =>
      match transmitAll d client port 0 0 bytes encoder s with
      | ⟨.error e, encoder, s⟩ => ⟨.error e, encoder, s⟩
      | ⟨.ok events, encoder, s⟩ =>
        match d.drain s client with
        | (.error e, s) => ⟨.error (.drain e), encoder, s⟩
        | (.ok (), s) => ⟨.ok events, encoder, s⟩

end Encoder

/-- How an output is set up. -/
structure Output.Settings where
  /-- The name of its client. -/
  clientName : String := "midilink output client"
  /-- The name of the port that commands open. -/
  portName : String := "midilink output"
  /-- The capacity that its encoder starts with. -/
  encoderCapacity : Nat := Encoder.defaultCapacity
deriving Repr, DecidableEq, Inhabited

/-- An output: an endpoint with an encoder. -/
structure Output (η : Type) where
  /-- How it was set up. -/
  settings : Output.Settings
  /-- Its client and port. -/
  endpoint : Endpoint η
  /-- Its encoder. -/
  encoder : Encoder

namespace Output

variable {σ η : Type}

/-- A fresh output. -/
def ofSettings (settings : Settings) : Output η :=
  { settings
    endpoint := { direction := .output, clientName := settings.clientName }
    encoder := .ofCapacity settings.encoderCapacity }

/-- Puts an endpoint in place of the output's own. -/
def withEndpoint (o : Output η) (endpoint : Endpoint η) : Output η := { o with endpoint }

/-- Connects to the destination at a place in the driver's list. -/
def openPort (d : Driver σ η) (o : Output η) (s : σ) (index : Nat) (name : String) :
    Outcome (Output η) σ η Unit :=
  (o.endpoint.openPort d s index name).within o.withEndpoint

/-- Publishes a port that others can read from. -/
def openVirtualPort (d : Driver σ η) (o : Output η) (s : σ) (name : String) :
    Outcome (Output η) σ η Unit :=
  (o.endpoint.openVirtualPort d s name).within o.withEndpoint

/-- Closes the port. -/
def closePort (d : Driver σ η) (o : Output η) (s : σ) : Output η × σ :=
  match o.endpoint.closePort d s with
  | (endpoint, s) => (o.withEndpoint endpoint, s)

/-- Ends the output: its port and its client are closed. -/
def shutdown (d : Driver σ η) (o : Output η) (s : σ) : Output η × σ :=
  match o.endpoint.shutdown d s with
  | (endpoint, s) => (o.withEndpoint endpoint, s)

/-- Renames the port. -/
def setPortName (d : Driver σ η) (o : Output η) (s : σ) (name : String) :
    Outcome (Output η) σ η Unit :=
  (o.endpoint.setPortName d s name).within o.withEndpoint

/-- Renames the client. -/
def setClientName (d : Driver σ η) (o : Output η) (s : σ) (name : String) :
    Outcome (Output η) σ η Unit :=
  (o.endpoint.setClientName d s name).within o.withEndpoint

/-- Sends one or more messages. A SysEx may also be spread over several calls. -/
def send (d : Driver σ η) (o : Output η) (s : σ) (bytes : Bytes) :
    Except SendError Unit × Output η × σ :=
  match o.endpoint.link with
  | .portOpen client port _ =>
    match o.encoder.send d client port bytes s with
    | ⟨result, encoder, s⟩ => (result.map fun _ => (), { o with encoder }, s)
  | _ => (.error .portClosed, o, s)

end Output

end PatchBay
