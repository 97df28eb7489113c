import PatchBay.Proofs.FailedOpens
import PatchBay.Proofs.Overlay
import PatchBay.Proofs.Watching

/-!
# Operations that fail

An operation is a chain of calls, and any of them may fail. What a failed operation leaves is the
endpoint as it was, but for what the chain achieved before it broke off: the client that was opened
for a port that could not be registered, or the port that was registered and could not be connected.

An operation is told here by the calls that it makes, whatever the driver answers: the relation
`Endpoint.Proceeds` has one case for each call that may end it. What fails is the last case of the
chain, and what came before it has succeeded.
-/

namespace PatchBay

open CallLog

/-! ## Notes -/

/-- A call as a watcher sees it, and with the ports that were listed. -/
structure Note (η : Type) extends Sight η where
  peers : List Peer := []

namespace Note

variable {η : Type}

def entry (note : Note η) : Entry := ⟨note.call, note.answer⟩

/-- No client was opened, or the client refused its handler. -/
def deniesClient (note : Note η) : Bool :=
  match note.call, note.answer with
  | .openClient _, .failed _ | .setHandler _, .failed _ => true
  | _, _ => false

end Note

namespace Driver

variable {σ η : Type}

/-- The driver, with notes of its calls. It answers as it does without. -/
def noted (d : Driver σ η) : Driver (σ × List (Note η)) η :=
  { d.watched fun notes sight => notes ++ [{ toSight := sight }] with
    enumerate s direction :=
      let r := d.enumerate s.1 direction
      (r.1, r.2, s.2 ++ [{ call := .enumerate direction, answer := .done, peers := r.1 }]) }

theorem answers_noted (d : Driver σ η) : d.noted.Answers d Prod.fst := by
  constructor <;> intros <;> rfl

/-- The notes are a log, and say more. -/
theorem noted_answers_logged (d : Driver σ η) :
    d.noted.Answers d.logged fun w => (w.1, w.2.map Note.entry) := by
  constructor <;> intros <;> simp [noted, watched, logged, Note.entry]

end Driver

namespace Outcome

variable {σ η α β : Type}

/-- Why there is no result. -/
def failure? {ω : Type} (o : Outcome ω σ η α) : Option PortError :=
  match o.result with
  | .error err => some err
  | .ok _ => none

theorem failure?_discard {ω : Type} (o : Outcome ω σ η α) : o.discard.failure? = o.failure? := by
  unfold failure? discard
  cases o.result <;> rfl

/-- An outcome with the calls that were noted for it. -/
def Notes (o : Outcome (Endpoint η) (σ × List (Note η)) η α) (before : List (Note η))
    (R : List (Note η) → Option PortError → Endpoint η → Prop) : Prop :=
  ∃ made, o.driver.2 = before ++ made ∧ R made o.failure? o.subject

/-- An operation that makes no call. -/
theorem Notes.silent {o : Outcome (Endpoint η) (σ × List (Note η)) η α} {before : List (Note η)}
    {R : List (Note η) → Option PortError → Endpoint η → Prop} (hsame : o.driver.2 = before)
    (h : R [] o.failure? o.subject) : o.Notes before R :=
  ⟨[], by rw [hsame, List.append_nil], h⟩

theorem Notes.discard {o : Outcome (Endpoint η) (σ × List (Note η)) η α}
    {before : List (Note η)} {R : List (Note η) → Option PortError → Endpoint η → Prop}
    (h : o.Notes before R) : o.discard.Notes before R := by
  obtain ⟨made, hmade, hmet⟩ := h
  refine ⟨made, hmade, ?_⟩
  rw [failure?_discard]
  exact hmet

/-- The second operation is carried out if the first did not fail. -/
theorem Notes.andThen {first : Outcome (Endpoint η) (σ × List (Note η)) η α}
    {before : List (Note η)} {R S : List (Note η) → Option PortError → Endpoint η → Prop}
    {f : α → Endpoint η → σ × List (Note η) → Outcome (Endpoint η) (σ × List (Note η)) η β}
    (h : first.Notes before R) (hstop : ∀ made err e, R made (some err) e → S made (some err) e)
    (hgo : ∀ made a, first.result = .ok a → R made none first.subject →
      (f a first.subject first.driver).Notes first.driver.2 fun more => S (made ++ more)) :
    (first.andThen f).Notes before S := by
  obtain ⟨made, hmade, hfirst⟩ := h
  unfold Outcome.andThen
  cases hresult : first.result with
  | error err =>
    refine ⟨made, hmade, ?_⟩
    simp only [failure?, hresult] at hfirst ⊢
    exact hstop made err _ hfirst
  | ok a =>
    simp only [failure?, hresult] at hfirst
    obtain ⟨more, hmore, hsecond⟩ := hgo made a hresult hfirst
    refine ⟨made ++ more, ?_, hsecond⟩
    dsimp only
    rw [hmore, hmade, List.append_assoc]

end Outcome

/-! ## How operations go -/

/-- Why a port cannot have this name. -/
def nameError (limit : Option Nat) (clientName name : String) : Option PortError :=
  match limit with
  | none => none
  | some max =>
    if max < clientName.utf8ByteSize + 1 + name.utf8ByteSize then some (.invalidName name max)
    else none

namespace Endpoint

variable {σ η : Type}

theorem checkName_eq (d : Driver σ η) (e : Endpoint η) (name : String) :
    e.checkName d name =
      match nameError d.nameLimit e.clientName name with
      | some err => .error err
      | none => .ok () := by
  unfold checkName nameError
  cases d.nameLimit with
  | none => rfl
  | some max =>
    dsimp only
    split <;> rfl

/-- How an endpoint gets a client, with the calls for it, and why it does not. -/
inductive OpensClient (e : Endpoint η) :
    List (Note η) → Option PortError → Endpoint η → Prop where
  | there (hlink : e.link ≠ .disconnected) : OpensClient e [] none e
  | unopened (hlink : e.link = .disconnected) (err : DriverError) :
    OpensClient e [{ call := .openClient e.clientName, answer := .failed err }]
      (some (.ofDriver err)) e
  | opened (hlink : e.link = .disconnected) (hnone : e.handler = none) (c : ClientId) :
    OpensClient e [{ call := .openClient e.clientName, answer := .client c }] none
      { e with link := .clientOpen c, handler := none }
  /-- The client is closed again. -/
  | refused {h : η} (hlink : e.link = .disconnected) (hsome : e.handler = some h) (c : ClientId)
      (err : DriverError) :
    OpensClient e
      [{ call := .openClient e.clientName, answer := .client c },
        { call := .setHandler c, answer := .failed err, handler := some h },
        { call := .closeClient c, answer := .done }] (some (.ofDriver err)) e
  | equipped {h : η} (hlink : e.link = .disconnected) (hsome : e.handler = some h)
      (c : ClientId) :
    OpensClient e
      [{ call := .openClient e.clientName, answer := .client c },
        { call := .setHandler c, answer := .done, handler := some h }] none
      { e with link := .clientOpen c, handler := none }

/-- How an endpoint with a client gets a port. -/
inductive AddsPort (e : Endpoint η) (name : String) (kind : PortKind) :
    List (Note η) → Option PortError → Endpoint η → Prop where
  | there (hport : e.link.port?.isSome) : AddsPort e name kind [] none e
  | unregistered {c : ClientId} (hlink : e.link = .clientOpen c) (err : DriverError) :
    AddsPort e name kind
      [{ call := .registerPort c name e.direction kind, answer := .failed err }]
      (some (.ofDriver err)) e
  | registered {c : ClientId} (hlink : e.link = .clientOpen c) (p : PortId) :
    AddsPort e name kind [{ call := .registerPort c name e.direction kind, answer := .port p }]
      none { e with link := .portOpen c p none }

/-- How an endpoint gets a port, and a client first. -/
inductive Registering (e : Endpoint η) (limit : Option Nat) (name : String) (kind : PortKind) :
    List (Note η) → Option PortError → Endpoint η → Prop where
  | misnamed {err : PortError} (hname : nameError limit e.clientName name = some err) :
    Registering e limit name kind [] (some err) e
  | clientless {e' : Endpoint η} {made : List (Note η)} {err : PortError}
      (hname : nameError limit e.clientName name = none) (h : e.OpensClient made (some err) e') :
    Registering e limit name kind made (some err) e'
  | going {e' e'' : Endpoint η} {made more : List (Note η)} {failure : Option PortError}
      (hname : nameError limit e.clientName name = none) (h : e.OpensClient made none e')
      (h' : e'.AddsPort name kind more failure e'') :
    Registering e limit name kind (made ++ more) failure e''

/-- How the port of an endpoint is connected. -/
inductive Connecting (e : Endpoint η) (index : Nat) :
    List (Note η) → Option PortError → Endpoint η → Prop where
  | noPort (hport : e.link.port? = none) : Connecting e index [] (some .notOpen) e
  | there (hpeer : e.link.peer?.isSome) : Connecting e index [] none e
  | unlisted {c : ClientId} {p : PortId} {peers : List Peer} (hlink : e.link = .portOpen c p none)
      (hpeer : peers[index]? = none) :
    Connecting e index [{ call := .enumerate e.direction, answer := .done, peers }]
      (some (.invalidPortIndex index peers.length)) e
  | unconnected {c : ClientId} {p : PortId} {peers : List Peer} {peer : Peer}
      (hlink : e.link = .portOpen c p none) (hpeer : peers[index]? = some peer)
      (err : DriverError) :
    Connecting e index
      [{ call := .enumerate e.direction, answer := .done, peers },
        { call := .connect c p peer.address, answer := .failed err }] (some (.ofDriver err)) e
  | connected {c : ClientId} {p : PortId} {peers : List Peer} {peer : Peer}
      (hlink : e.link = .portOpen c p none) (hpeer : peers[index]? = some peer) :
    Connecting e index
      [{ call := .enumerate e.direction, answer := .done, peers },
        { call := .connect c p peer.address, answer := .done }] none
      { e with link := .portOpen c p (some peer.address) }

/-- The calls by which a port is removed. -/
def closing (c : ClientId) (p : PortId) (peer : Option Address) : List (Note η) :=
  (if peer.isSome then [{ call := .disconnect c p, answer := .done }] else []) ++
    [{ call := .unregisterPort c p, answer := .done }]

/-- How an operation goes where names beyond `limit` are refused: the calls that it makes, why it
fails if it does, and what becomes of the endpoint. -/
inductive Proceeds (e : Endpoint η) (limit : Option Nat) :
    Operation → List (Note η) → Option PortError → Endpoint η → Prop where
  | ensureClient {e' : Endpoint η} {made : List (Note η)} {failure : Option PortError}
      (h : e.OpensClient made failure e') : Proceeds e limit .ensureClient made failure e'
  | register {e' : Endpoint η} {made : List (Note η)} {failure : Option PortError}
      {name : String} {kind : PortKind} (h : e.Registering limit name kind made failure e') :
    Proceeds e limit (.register name kind) made failure e'
  | connectPort {e' : Endpoint η} {made : List (Note η)} {failure : Option PortError}
      {index : Nat} (h : e.Connecting index made failure e') :
    Proceeds e limit (.connectPort index) made failure e'
  | portless {e' : Endpoint η} {made : List (Note η)} {err : PortError} {name : String}
      (index : Nat) (h : e.Registering limit name .connectable made (some err) e') :
    Proceeds e limit (.openPort index name) made (some err) e'
  | openPort {e' e'' : Endpoint η} {made more : List (Note η)} {failure : Option PortError}
      {name : String} {index : Nat} (h : e.Registering limit name .connectable made none e')
      (h' : e'.Connecting index more failure e'') :
    Proceeds e limit (.openPort index name) (made ++ more) failure e''
  | openVirtualPort {e' : Endpoint η} {made : List (Note η)} {failure : Option PortError}
      {name : String} (h : e.Registering limit name .virtual made failure e') :
    Proceeds e limit (.openVirtualPort name) made failure e'
  | nothingOpen (hport : e.link.port? = none) : Proceeds e limit .closePort [] none e
  | closePort {c : ClientId} {p : PortId} {peer : Option Address}
      (hlink : e.link = .portOpen c p peer) :
    Proceeds e limit .closePort (closing c p peer) none { e with link := .clientOpen c }
  | noPort (hport : e.link.port? = none) (name : String) :
    Proceeds e limit (.setPortName name) [] (some .notOpen) e
  | misnamed {err : PortError} {name : String} (hport : e.link.port?.isSome)
      (hname : nameError limit e.clientName name = some err) :
    Proceeds e limit (.setPortName name) [] (some err) e
  | keptPortName {c : ClientId} {p : PortId} {peer : Option Address}
      (hlink : e.link = .portOpen c p peer) (name : String) (err : DriverError) :
    Proceeds e limit (.setPortName name)
      [{ call := .renamePort c p name, answer := .failed err }] (some (.ofDriver err)) e
  | renamedPort {c : ClientId} {p : PortId} {peer : Option Address} {name : String}
      (hlink : e.link = .portOpen c p peer)
      (hname : nameError limit e.clientName name = none) :
    Proceeds e limit (.setPortName name) [{ call := .renamePort c p name, answer := .done }] none e
  | named (hclient : e.link.client? = none) (name : String) :
    Proceeds e limit (.setClientName name) [] none { e with clientName := name }
  | keptClientName {c : ClientId} (hclient : e.link.client? = some c) (name : String)
      (err : DriverError) :
    Proceeds e limit (.setClientName name)
      [{ call := .renameClient c name, answer := .failed err }] (some (.ofDriver err)) e
  | renamedClient {c : ClientId} (hclient : e.link.client? = some c) (name : String) :
    Proceeds e limit (.setClientName name) [{ call := .renameClient c name, answer := .done }]
      none { e with clientName := name }
  | disconnected (hlink : e.link = .disconnected) : Proceeds e limit .shutdown [] none e
  | closeClient {c : ClientId} (hlink : e.link = .clientOpen c) :
    Proceeds e limit .shutdown [{ call := .closeClient c, answer := .done }] none
      { e with link := .disconnected }
  | shutdown {c : ClientId} {p : PortId} {peer : Option Address}
      (hlink : e.link = .portOpen c p peer) :
    Proceeds e limit .shutdown (closing c p peer ++ [{ call := .closeClient c, answer := .done }])
      none { e with link := .disconnected }

variable {d : Driver σ η} {e e' e'' : Endpoint η} {s : σ × List (Note η)} {limit : Option Nat}
  {op : Operation} {made more : List (Note η)} {note : Note η} {failure : Option PortError}
  {err : PortError} {name : String} {kind : PortKind} {index : Nat} {client : ClientId}
  {peers : List Peer}

theorem ensureClient_notes (d : Driver σ η) (e : Endpoint η) (s : σ × List (Note η)) :
    (e.ensureClient d.noted s).Notes s.2 e.OpensClient := by
  unfold ensureClient
  cases hlink : e.link with
  | clientOpen client => exact .silent rfl (.there (by rw [hlink]; nofun))
  | portOpen client port peer =>
    exact .silent rfl (.there (by rw [hlink]; nofun))
  | disconnected =>
    simp only [Link.client?, Driver.noted, Driver.watched]
    cases hopened : d.openClient s.1 e.clientName with
    | mk result s' =>
      cases result with
      | error err =>
        cases err with
        | _ => exact ⟨_, rfl, .unopened hlink _⟩
      | ok client =>
        cases hhandler : e.handler with
        | none => exact ⟨_, rfl, .opened hlink hhandler client⟩
        | some handler =>
          cases hset : d.setHandler s' client handler with
          | mk accepted s'' =>
            simp only [hset]
            cases accepted with
            | error err => exact ⟨_, by simp [Answer.of], .refused hlink hhandler client err⟩
            | ok u => exact ⟨_, by simp [Answer.of], .equipped hlink hhandler client⟩

theorem ensurePort_notes (d : Driver σ η) (s : σ × List (Note η))
    (hc : e.link.client? = some client) (name : String) (kind : PortKind) :
    (e.ensurePort d.noted s client name kind).Notes s.2 (e.AddsPort name kind) := by
  unfold ensurePort
  cases hlink : e.link with
  | disconnected =>
    rw [hlink] at hc
    cases hc
  | portOpen c port peer =>
    exact .silent rfl (.there (by rw [hlink]; rfl))
  | clientOpen c =>
    rw [hlink] at hc
    cases hc
    simp only [Link.port?, Driver.noted, Driver.watched]
    cases hregister : d.registerPort s.1 client name e.direction kind with
    | mk result s' =>
      cases result with
      | error err => exact ⟨_, rfl, .unregistered hlink err⟩
      | ok port => exact ⟨_, rfl, .registered hlink port⟩

theorem register_notes (d : Driver σ η) (e : Endpoint η) (s : σ × List (Note η)) (name : String)
    (kind : PortKind) :
    (e.register d.noted s name kind).Notes s.2 (e.Registering d.nameLimit name kind) := by
  unfold register
  rw [checkName_eq]
  cases hname : nameError d.noted.nameLimit e.clientName name with
  | some err => exact .silent rfl (.misnamed hname)
  | none =>
    refine (ensureClient_notes d e s).andThen (fun made err e' h => .clientless hname h) ?_
    intro made client hclient hopens
    obtain ⟨more, hmore, hadds⟩ := ensurePort_notes d (e.ensureClient d.noted s).driver
      ((ensureClient_ok d.noted e s).2 client hclient) name kind
    exact ⟨more, hmore, .going hname hopens hadds⟩

theorem connectPort_notes (d : Driver σ η) (e : Endpoint η) (s : σ × List (Note η))
    (index : Nat) : (e.connectPort d.noted s index).Notes s.2 (e.Connecting index) := by
  unfold connectPort
  cases hlink : e.link with
  | disconnected => exact .silent rfl (.noPort (by rw [hlink]; rfl))
  | clientOpen client => exact .silent rfl (.noPort (by rw [hlink]; rfl))
  | portOpen client port peer =>
    cases peer with
    | some peer => exact .silent rfl (.there (by rw [hlink]; rfl))
    | none =>
      simp only [Driver.noted, Driver.watched]
      cases hpeer : (d.enumerate s.1 e.direction).1[index]? with
      | none => exact ⟨_, rfl, .unlisted hlink hpeer⟩
      | some peer =>
        dsimp only
        cases hconnect : d.connect (d.enumerate s.1 e.direction).2 client port peer.address with
        | mk result after =>
          simp only [List.append_assoc, List.cons_append, List.nil_append]
          cases result with
          | error err => exact ⟨_, rfl, .unconnected hlink hpeer err⟩
          | ok u => exact ⟨_, rfl, .connected hlink hpeer⟩

theorem setPortName_notes (d : Driver σ η) (e : Endpoint η) (s : σ × List (Note η))
    (name : String) :
    (e.setPortName d.noted s name).Notes s.2 (e.Proceeds d.nameLimit (.setPortName name)) := by
  unfold setPortName
  rw [checkName_eq]
  cases hlink : e.link with
  | disconnected => exact .silent rfl (.noPort (by rw [hlink]; rfl) _)
  | clientOpen client => exact .silent rfl (.noPort (by rw [hlink]; rfl) _)
  | portOpen client port peer =>
    cases hname : nameError d.noted.nameLimit e.clientName name with
    | some err =>
      exact .silent rfl (.misnamed (by rw [hlink]; rfl) hname)
    | none =>
      simp only [Driver.noted, Driver.watched]
      cases hrename : d.renamePort s.1 client port name with
      | mk result after =>
        cases result with
        | error err => exact ⟨_, rfl, .keptPortName hlink name err⟩
        | ok u => exact ⟨_, rfl, .renamedPort hlink hname⟩

theorem setClientName_notes (d : Driver σ η) (e : Endpoint η) (s : σ × List (Note η))
    (name : String) :
    (e.setClientName d.noted s name).Notes s.2 (e.Proceeds d.nameLimit (.setClientName name)) := by
  unfold setClientName
  cases hclient : e.link.client? with
  | none => exact .silent rfl (.named hclient name)
  | some client =>
    simp only [Driver.noted, Driver.watched]
    cases hrename : d.renameClient s.1 client name with
    | mk result after =>
      cases result with
      | error err => exact ⟨_, rfl, .keptClientName hclient name err⟩
      | ok u => exact ⟨_, rfl, .renamedClient hclient name⟩

theorem closePort_notes (d : Driver σ η) (e : Endpoint η) (s : σ × List (Note η)) :
    (e.attempt d.noted s .closePort).Notes s.2 (e.Proceeds d.nameLimit .closePort) := by
  unfold attempt closePort
  cases hlink : e.link with
  | disconnected => exact .silent rfl (.nothingOpen (by rw [hlink]; rfl))
  | clientOpen client => exact .silent rfl (.nothingOpen (by rw [hlink]; rfl))
  | portOpen client port peer =>
    refine ⟨closing client port peer, ?_, .closePort hlink⟩
    cases peer with
    | none => rfl
    | some peer => exact List.append_assoc ..

theorem shutdown_notes (d : Driver σ η) (e : Endpoint η) (s : σ × List (Note η)) :
    (e.attempt d.noted s .shutdown).Notes s.2 (e.Proceeds d.nameLimit .shutdown) := by
  unfold attempt shutdown closePort
  cases hlink : e.link with
  | disconnected =>
    simp only [hlink, Link.client?]
    exact .silent rfl (.disconnected hlink)
  | clientOpen client =>
    simp only [hlink, Link.client?]
    exact ⟨_, rfl, .closeClient hlink⟩
  | portOpen client port peer =>
    refine ⟨closing client port peer ++ [{ call := .closeClient client, answer := .done }], ?_,
      .shutdown hlink⟩
    cases peer <;> simp [closing, Driver.noted, Driver.watched, Link.client?]

/-- Every operation goes in one of these ways. -/
theorem attempt_notes (d : Driver σ η) (e : Endpoint η) (s : σ × List (Note η)) (op : Operation) :
    (e.attempt d.noted s op).Notes s.2 (e.Proceeds d.nameLimit op) := by
  cases op with
  | ensureClient =>
    obtain ⟨made, hmade, h⟩ := (ensureClient_notes d e s).discard
    exact ⟨made, hmade, .ensureClient h⟩
  | register name kind =>
    obtain ⟨made, hmade, h⟩ := (register_notes d e s name kind).discard
    exact ⟨made, hmade, .register h⟩
  | connectPort index =>
    obtain ⟨made, hmade, h⟩ := connectPort_notes d e s index
    exact ⟨made, hmade, .connectPort h⟩
  | openPort index name =>
    refine (register_notes d e s name .connectable).andThen (fun made err e' h => .portless index h)
      fun made port _ hregister => ?_
    let first := e.register d.noted s name .connectable
    obtain ⟨more, hmore, hconnect⟩ := connectPort_notes d first.subject first.driver index
    exact ⟨more, hmore, .openPort hregister hconnect⟩
  | openVirtualPort name =>
    -- nothing is called for behind the registration, and nothing can fail there
    refine (register_notes d e s name .virtual).andThen (fun made err e' h => .openVirtualPort h)
      fun made port _ hregister => ?_
    have hall : e.Proceeds d.nameLimit (.openVirtualPort name) (made ++ []) none
        (e.register d.noted s name .virtual).subject := by
      rw [List.append_nil]
      exact .openVirtualPort hregister
    exact .silent rfl hall
  | closePort => exact closePort_notes d e s
  | setPortName name => exact setPortName_notes d e s name
  | setClientName name => exact setClientName_notes d e s name
  | shutdown => exact shutdown_notes d e s

theorem attempt_proceeds (herr : (e.attempt d.noted s op).result = .error err) :
    ∃ made, (e.attempt d.noted s op).driver.2 = s.2 ++ made ∧
      e.Proceeds d.nameLimit op made (some err) (e.attempt d.noted s op).subject := by
  obtain ⟨made, hmade, hproceeds⟩ := attempt_notes d e s op
  rw [Outcome.failure?, herr] at hproceeds
  exact ⟨made, hmade, hproceeds⟩

/-! ## Where a failed operation leaves an endpoint -/

/-- A client was opened, and what handler there was is installed on it. -/
structure Equips (e : Endpoint η) (c : ClientId) (made : List (Note η)) : Prop where
  opened : { call := .openClient e.clientName, answer := .client c } ∈ made
  installed : ∀ h, e.handler = some h →
    { call := .setHandler c, answer := .done, handler := some h } ∈ made

theorem Equips.append {c : ClientId} (h : e.Equips c made) (more : List (Note η)) :
    e.Equips c (made ++ more) :=
  ⟨List.mem_append_left more h.opened, fun x hx => List.mem_append_left more (h.installed x hx)⟩

/-- The name and the kind of the port that an operation registers if there is none. -/
def Operation.registers? : Operation → Option (String × PortKind)
  | .register name kind => some (name, kind)
  | .openPort _ name => some (name, .connectable)
  | .openVirtualPort name => some (name, .virtual)
  | _ => none

/-- Where an operation that fails leaves the endpoint, with the calls that it made. -/
inductive Leaves (e : Endpoint η) (op : Operation) (made : List (Note η)) : Endpoint η → Prop where
  | asBefore : Leaves e op made e
  /-- With a client for the port that could not be registered. -/
  | client {name : String} {kind : PortKind} {c : ClientId} {err : DriverError}
      (hlink : e.link = .disconnected) (hop : op.registers? = some (name, kind))
      (hequips : e.Equips c made)
      (hfailed :
        { call := .registerPort c name e.direction kind, answer := .failed err } ∈ made) :
    Leaves e op made { e with link := .clientOpen c, handler := none }
  /-- With a port that could not be connected. -/
  | port {index : Nat} {name : String} {c : ClientId} {p : PortId}
      (hlink : e.link = .clientOpen c) (hop : op = .openPort index name)
      (hregistered :
        { call := .registerPort c name e.direction .connectable, answer := .port p } ∈ made) :
    Leaves e op made { e with link := .portOpen c p none }
  /-- With a client and a port that could not be connected. -/
  | clientAndPort {index : Nat} {name : String} {c : ClientId} {p : PortId}
      (hlink : e.link = .disconnected) (hop : op = .openPort index name)
      (hequips : e.Equips c made)
      (hregistered :
        { call := .registerPort c name e.direction .connectable, answer := .port p } ∈ made) :
    Leaves e op made { e with link := .portOpen c p none, handler := none }

theorem OpensClient.failed (h : e.OpensClient made (some err) e') : e' = e := by
  cases h <;> rfl

/-- A client was there, or was opened. -/
theorem OpensClient.succeeded (h : e.OpensClient made none e') :
    e' = e ∧ e.link ≠ .disconnected ∨
      e.link = .disconnected ∧
        ∃ c, e.Equips c made ∧ e' = { e with link := .clientOpen c, handler := none } := by
  cases h with
  | there hlink => exact .inl ⟨rfl, hlink⟩
  | opened hlink hnone c =>
    refine .inr ⟨hlink, c, ⟨List.mem_cons_self .., fun h hsome => ?_⟩, rfl⟩
    rw [hnone] at hsome
    cases hsome
  | equipped hlink hsome c =>
    refine .inr ⟨hlink, c, ⟨List.mem_cons_self .., fun h hh => ?_⟩, rfl⟩
    rw [hsome] at hh
    cases hh
    exact List.mem_cons_of_mem _ (List.mem_singleton_self _)

theorem Registering.leaves (h : e.Registering limit name kind made (some err) e')
    (hop : op.registers? = some (name, kind)) : e.Leaves op made e' := by
  cases h with
  | misnamed hname => exact .asBefore
  | clientless hname hopens =>
    rw [hopens.failed]
    exact .asBefore
  | going hname hopens hadds =>
    cases hadds with
    | unregistered hlink err =>
      -- a client that was there already is nothing new
      rcases hopens.succeeded with ⟨rfl, -⟩ | ⟨hnone, c, hequips, rfl⟩
      · exact .asBefore
      · cases hlink
        exact .client hnone hop (hequips.append _)
          (List.mem_append_right _ (List.mem_singleton_self _))

theorem Connecting.failed (h : e.Connecting index made (some err) e') : e' = e := by
  cases h <;> rfl

theorem Registering.unconnected (h : e.Registering limit name .connectable made none e')
    (more : List (Note η)) : e.Leaves (.openPort index name) (made ++ more) e' := by
  cases h with
  | going hname hopens hadds =>
    rw [List.append_assoc]
    -- what is new is what was missing: the port, or the client and then the port too
    rcases hopens.succeeded with ⟨rfl, -⟩ | ⟨hnone, c, hequips, rfl⟩
    · cases hadds with
      | there hport => exact .asBefore
      | registered hlink p =>
        exact .port hlink rfl (List.mem_append_right _ (List.mem_cons_self ..))
    · cases hadds with
      | there hport => cases hport
      | registered hlink p =>
        cases hlink
        exact .clientAndPort hnone rfl (hequips.append _)
          (List.mem_append_right _ (List.mem_cons_self ..))

theorem Proceeds.leaves (h : e.Proceeds limit op made (some err) e') : e.Leaves op made e' := by
  cases h with
  | ensureClient h =>
    rw [h.failed]
    exact .asBefore
  | register h => exact h.leaves rfl
  | connectPort h =>
    rw [h.failed]
    exact .asBefore
  | portless index h => exact h.leaves rfl
  | openPort h h' =>
    rw [h'.failed]
    exact h.unconnected _
  | openVirtualPort h => exact h.leaves rfl
  | noPort | misnamed | keptPortName | keptClientName => exact .asBefore

theorem OpensClient.denied (h : e.OpensClient made failure e') (hnote : note ∈ made)
    (hdenies : note.deniesClient = true) :
    (∃ err, failure = some err) ∧ e' = e ∧ e.link = .disconnected := by
  cases h with
  | there hlink => cases hnote
  | unopened hlink err => exact ⟨⟨_, rfl⟩, rfl, hlink⟩
  | refused hlink hsome c err => exact ⟨⟨_, rfl⟩, rfl, hlink⟩
  | opened hlink hnone c =>
    rw [List.mem_singleton.mp hnote] at hdenies
    cases hdenies
  | equipped hlink hsome c =>
    rcases List.mem_cons.mp hnote with rfl | hnote
    · cases hdenies
    · rw [List.mem_singleton.mp hnote] at hdenies
      cases hdenies

theorem AddsPort.not_denied (h : e.AddsPort name kind made failure e') (hnote : note ∈ made) :
    note.deniesClient = false := by
  cases h with
  | there hport => cases hnote
  | unregistered hlink err =>
    rw [List.mem_singleton.mp hnote]
    rfl
  | registered hlink p =>
    rw [List.mem_singleton.mp hnote]
    rfl

theorem Connecting.not_denied (h : e.Connecting index made failure e') (hnote : note ∈ made) :
    note.deniesClient = false := by
  cases h with
  | noPort hport => cases hnote
  | there hpeer => cases hnote
  | unlisted hlink hpeer =>
    rw [List.mem_singleton.mp hnote]
    rfl
  | unconnected hlink hpeer | connected hlink hpeer =>
    rcases List.mem_cons.mp hnote with rfl | hnote
    · rfl
    · rw [List.mem_singleton.mp hnote]
      rfl

theorem Registering.denied (h : e.Registering limit name kind made failure e')
    (hnote : note ∈ made) (hdenies : note.deniesClient = true) :
    (∃ err, failure = some err) ∧ e' = e ∧ e.link = .disconnected := by
  cases h with
  | misnamed hname => cases hnote
  | clientless hname hopens => exact hopens.denied hnote hdenies
  | going hname hopens hadds =>
    rcases List.mem_append.mp hnote with hnote | hnote
    · obtain ⟨⟨err, herr⟩, -⟩ := hopens.denied hnote hdenies
      cases herr
    · rw [hadds.not_denied hnote] at hdenies
      cases hdenies

theorem not_denied_of_closing {c : ClientId} {p : PortId} {peer : Option Address}
    (hnote : note ∈ closing c p peer) : note.deniesClient = false := by
  unfold closing at hnote
  rcases List.mem_append.mp hnote with hnote | hnote
  · split at hnote
    · rw [List.mem_singleton.mp hnote]
      rfl
    · cases hnote
  · rw [List.mem_singleton.mp hnote]
    rfl

/-- An operation that gets no client leaves the endpoint without one, and as it was. -/
theorem Proceeds.denied (h : e.Proceeds limit op made failure e') (hnote : note ∈ made)
    (hdenies : note.deniesClient = true) : e' = e ∧ e.link = .disconnected := by
  cases h with
  | ensureClient h => exact (h.denied hnote hdenies).2
  | register h => exact (h.denied hnote hdenies).2
  | portless index h => exact (h.denied hnote hdenies).2
  | openVirtualPort h => exact (h.denied hnote hdenies).2
  | connectPort h =>
    rw [h.not_denied hnote] at hdenies
    cases hdenies
  | openPort h h' =>
    rcases List.mem_append.mp hnote with hnote | hnote
    · obtain ⟨⟨err, herr⟩, -⟩ := h.denied hnote hdenies
      cases herr
    · rw [h'.not_denied hnote] at hdenies
      cases hdenies
  | closePort hlink =>
    rw [not_denied_of_closing hnote] at hdenies
    cases hdenies
  | shutdown hlink =>
    rcases List.mem_append.mp hnote with hnote | hnote
    · rw [not_denied_of_closing hnote] at hdenies
      cases hdenies
    · rw [List.mem_singleton.mp hnote] at hdenies
      cases hdenies
  | nothingOpen | noPort | misnamed | named | disconnected => cases hnote
  | keptPortName | renamedPort | keptClientName | renamedClient | closeClient =>
    rw [List.mem_singleton.mp hnote] at hdenies
    cases hdenies

theorem OpensClient.not_refused (h : e.OpensClient made (some err) e') :
    err.refusesName = false := by
  cases h with
  | unopened hlink err => exact PortError.ofDriver_refusesName err
  | refused hlink hsome c err => exact PortError.ofDriver_refusesName err

theorem Connecting.not_refused (h : e.Connecting index made (some err) e') :
    err.refusesName = false := by
  cases h with
  | noPort | unlisted => rfl
  | unconnected hlink hpeer err => exact PortError.ofDriver_refusesName err

theorem Registering.refused (h : e.Registering limit name kind made (some err) e')
    (hrefused : err.refusesName = true) : made = [] ∧ e' = e := by
  cases h with
  | misnamed hname => exact ⟨rfl, rfl⟩
  | clientless hname hopens =>
    rw [hopens.not_refused] at hrefused
    cases hrefused
  | going hname hopens hadds =>
    cases hadds with
    | unregistered hlink err =>
      rw [PortError.ofDriver_refusesName] at hrefused
      cases hrefused

/-- Where the name is refused, no call is made. -/
theorem Proceeds.refused (h : e.Proceeds limit op made (some err) e')
    (hrefused : err.refusesName = true) : made = [] ∧ e' = e := by
  cases h with
  | register h => exact h.refused hrefused
  | portless index h => exact h.refused hrefused
  | openVirtualPort h => exact h.refused hrefused
  | misnamed hport hname => exact ⟨rfl, rfl⟩
  | noPort hport name => cases hrefused
  | ensureClient h =>
    rw [h.not_refused] at hrefused
    cases hrefused
  | connectPort h =>
    rw [h.not_refused] at hrefused
    cases hrefused
  | openPort h h' =>
    rw [h'.not_refused] at hrefused
    cases hrefused
  | keptPortName | keptClientName =>
    rw [PortError.ofDriver_refusesName] at hrefused
    cases hrefused

/-! ## What is held meanwhile -/

theorem attempt_reaches (h : Reaches (s.2.map Note.entry) e.link.hold) (d : Driver σ η)
    (op : Operation) :
    Reaches ((e.attempt d.noted s op).driver.2.map Note.entry)
      (e.attempt d.noted s op).subject.link.hold := by
  have hkeeps := (perform_keeps (d := d) (s := (s.1, s.2.map Note.entry)) op h).2
  rw [← attempt_final, ← attempt_answers d.noted_answers_logged] at hkeeps
  exact hkeeps

theorem performAll_reaches (h : Reaches (s.2.map Note.entry) e.link.hold) (d : Driver σ η)
    (ops : List Operation) :
    Reaches ((e.performAll d.noted s ops).2.2.map Note.entry)
      (e.performAll d.noted s ops).1.link.hold := by
  have hkeeps := (performAll_keeps (d := d) (s := (s.1, s.2.map Note.entry)) ops h).2
  rw [performAll_answers d.noted_answers_logged] at hkeeps
  exact hkeeps

end Endpoint

end PatchBay
