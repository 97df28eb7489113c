import PatchBay.Proofs.Connections
import PatchBay.Proofs.FailedOpens
import PatchBay.Proofs.Joining

/-!
# Opening a port on the bus

To open a port by its index, an endpoint checks the name, opens a client and registers a port where
it has none, has the bus list the ports that it may be connected to, and connects to one of them.
The list is read after the endpoint's own port was added to the bus, and a peer is asked for by the
address under which it is listed. On a bus in order none of this goes wrong: the list is the one
there was before, each address on it leads to the port that it was made for, and that port has the
direction and the other one the owner that the bus asks for.
-/

namespace PatchBay

namespace Bus

variable {η : Type} {b after : Bus η} {client : ClientId} {port : PortId} {direction : Direction}
  {peer : Peer}

/-! ## What is listed -/

/-- A list depends on the ports of one direction, and on the names of the clients that are there. -/
theorem Consistent.enumerate_eq (h : b.Consistent) {clients : List (ClientId × String)}
    {ports : List (PortId × Port)} (hclients : after.clients = b.clients ++ clients)
    (hports : after.ports = b.ports ++ ports)
    (hdirection : ∀ p ∈ ports, p.2.direction = direction) :
    after.enumerate direction = b.enumerate direction := by
  have hnone : ports.filter (·.2.direction = direction.peer) = [] := by
    rw [List.filter_eq_nil_iff]
    intro p hp
    rw [hdirection p hp, decide_eq_true_eq]
    cases direction <;> exact nofun
  rw [enumerate, enumerate, hports, List.filter_append, hnone, List.append_nil]
  refine List.map_congr_left fun p hp => ?_
  have hopen := h.owner_open p (List.mem_of_mem_filter hp)
  obtain ⟨name, hname⟩ := Option.isSome_iff_exists.mp hopen
  have hsame : after.fullName p.2 = b.fullName p.2 := by
    unfold fullName
    rw [hclients, List.lookup_append, hname, Option.some_or]
  dsimp only
  rw [hsame]

/-- Whoever is listed can be connected to. Nothing but the subscription is new. -/
theorem Consistent.connect_listed (h : b.Consistent)
    (hrole : b.role? port = some (client, direction)) (hpeer : peer ∈ b.enumerate direction) :
    ∃ q subscriptions, portAt? peer.address = some q ∧
      b.connect client port peer.address = (.ok (), { b with subscriptions }) ∧
      ∀ s, s ∈ subscriptions ↔ s ∈ b.subscriptions ∨ s = subscription direction port q := by
  obtain ⟨⟨q, other⟩, hmem, rfl⟩ := List.mem_map.mp hpeer
  obtain ⟨hthere, hdirection⟩ := List.mem_filter.mp hmem
  have hdirection : other.direction = direction.peer := of_decide_eq_true hdirection
  have hlook := h.lookup_of_mem hthere
  have hat : portAt? (address q) = some q := portAt?_address q
  obtain ⟨own, hown, hroles⟩ := lookup_of_role? hrole
  obtain ⟨rfl, rfl⟩ := Prod.mk.inj hroles
  have howns : b.ownPort own.owner port = .ok own := by
    simp [ownPort, hown]
  by_cases hjoined : subscription own.direction port q ∈ b.subscriptions
  · refine ⟨q, b.subscriptions, hat, ?_, fun s => ⟨.inl, ?_⟩⟩
    · simp only [Bus.connect, hat, howns, hlook, hdirection, ne_eq, not_true_eq_false, if_false,
        if_pos hjoined]
    · rintro (hs | rfl)
      · exact hs
      · exact hjoined
  · refine ⟨q, b.subscriptions ++ [subscription own.direction port q], hat, ?_, fun s => ?_⟩
    · simp only [Bus.connect, hat, howns, hlook, hdirection, ne_eq, not_true_eq_false, if_false,
        if_neg hjoined]
    · rw [List.mem_append, List.mem_singleton]

end Bus

namespace Endpoint

variable {η : Type} {settings : Bus.Settings} {b : Bus η} {e : Endpoint η} {client : ClientId}
  {port : PortId} {name : String} {kind : PortKind} {index : Nat}

/-! ## The port of its own -/

/-- The endpoint has its client and its port, either those that it had or new ones, and nothing else
on the bus is different. -/
structure Readied (e : Endpoint η) (b : Bus η) (name : String) (client : ClientId) (port : PortId)
    (e' : Endpoint η) (after : Bus η) : Prop where
  client_eq : ∀ c, e.link.client? = some c → client = c
  port_eq : ∀ p, e.link.port? = some p → port = p
  subject_eq : e' = { e with
    link := .portOpen client port e.link.peer?
    handler := if e.link.client?.isNone then none else e.handler }
  role_eq : after.role? port = some (client, e.direction)
  ports_eq : after.ports =
    if e.link.port?.isNone then b.ports ++ [(port, ⟨client, name, e.direction⟩)] else b.ports
  subscriptions_eq : after.subscriptions = b.subscriptions
  listed_eq : after.enumerate e.direction = b.enumerate e.direction
  consistent : after.Consistent

/-- On a bus in order with handles to spare, an endpoint gets its port if the name fits and if there
is a client or one can be opened. -/
theorem register_readies (hb : b.Consistent) (hstands : b.Stands e.direction e.link)
    (hspare : b.nextId.toNat + 2 < UInt32.size)
    (hcheck : e.checkName (Bus.driver settings) name = .ok ())
    (hopens : e.link.client? = none → b.available = true) (kind : PortKind) :
    ∃ client port,
      (e.register (Bus.driver settings) b name kind).result = .ok port ∧
      (e.register (Bus.driver settings) b name kind).delivered = [] ∧
      e.Readied b name client port (e.register (Bus.driver settings) b name kind).subject
        (e.register (Bus.driver settings) b name kind).driver := by
  have hworks : b.nextId ≤ (e.register (Bus.driver settings) b name kind).driver.nextId →
      e.Works (e.seat b) b (e.register (Bus.driver settings) b name kind).subject
        (e.register (Bus.driver settings) b name kind).driver := register_works hb hstands
  cases hlink : e.link with
  | disconnected =>
    rw [register_new hlink (hopens (by rw [hlink]; rfl)) hcheck] at hworks ⊢
    obtain ⟨hone, hnat⟩ := lt_succ hspare (by decide)
    have htwo := (lt_succ (n := b.nextId + 1) (k := 1) (by omega) (by decide)).1
    have hdone := hworks (UInt32.le_of_lt (UInt32.lt_trans hone htwo))
    refine ⟨⟨b.nextId⟩, ⟨b.nextId + 1⟩, rfl, rfl, ?_, ?_, ?_, hdone.stands.2.1, ?_, rfl, ?_,
      hdone.upholds.consistent⟩
    · rw [hlink]
      rintro c ⟨⟩
    · rw [hlink]
      rintro p ⟨⟩
    · simp [placed, hlink, Link.peer?, Link.client?]
    · simp [registered, hlink, Link.port?]
    · refine hb.enumerate_eq rfl rfl fun p hp => ?_
      rw [List.mem_singleton.mp hp]
  | clientOpen client =>
    have hseats := hstands.seats (by rw [hlink]; rfl : e.link.client? = some client)
    have hregister : e.register (Bus.driver settings) b name kind =
        { result := .ok ⟨b.nextId⟩
          subject := { e with link := .portOpen client ⟨b.nextId⟩ none }
          driver := (b.addPort ⟨client, name, e.direction⟩).2 } := by
      rw [register, hcheck]
      simp [Outcome.andThen, ensureClient, ensurePort, hlink, Link.client?, Link.port?, Bus.driver,
        Bus.registerPort, hseats.2, Bus.addPort]
    rw [hregister] at hworks ⊢
    have hone := (lt_succ hspare (by decide)).1
    have hdone := hworks (UInt32.le_of_lt hone)
    refine ⟨client, ⟨b.nextId⟩, rfl, rfl, ?_, ?_, ?_, hdone.stands.2.1, ?_, rfl, ?_,
      hdone.upholds.consistent⟩
    · rw [hlink]
      rintro c ⟨⟩
      rfl
    · rw [hlink]
      rintro p ⟨⟩
    · simp [hlink, Link.peer?, Link.client?]
    · simp [Bus.addPort, Bus.takeId, hlink, Link.port?]
    · refine hb.enumerate_eq (List.append_nil _).symm rfl fun p hp => ?_
      rw [List.mem_singleton.mp hp]
  | portOpen client port peer =>
    have hport : e.link.port? = some port := by rw [hlink]; rfl
    have hregister : e.register (Bus.driver settings) b name kind =
        { result := .ok port, subject := e, driver := b } := by
      rw [register_of_port hport, hcheck]
    rw [hlink] at hstands
    rw [hregister]
    refine ⟨client, port, rfl, rfl, ?_, ?_, ?_, hstands.2.1, ?_, rfl, rfl, hb⟩
    · rw [hlink]
      rintro c ⟨⟩
      rfl
    · rw [hlink]
      rintro p ⟨⟩
      rfl
    · simp only [hlink, Link.peer?, Link.client?, Option.isNone_some, Bool.false_eq_true, if_false]
      rw [← hlink]
    · simp [hlink, Link.port?]

/-! ## Opening by index -/

/-- An endpoint that has a port of its own, which is not connected, is connected to the port that
was listed at the index, and nothing else is; or no port was listed there. -/
inductive Chooses (e : Endpoint η) (b : Bus η) (index : Nat) (client : ClientId) (port : PortId) :
    Except PortError Unit → Link → Bus η → Prop where
  | unlisted {after : Bus η} (hnone : (b.enumerate e.direction)[index]? = none)
      (hsame : after.subscriptions = b.subscriptions) :
      Chooses e b index client port
        (.error (.invalidPortIndex index (b.enumerate e.direction).length))
        (.portOpen client port none) after
  | listed {after : Bus η} {peer : Peer} (hpeer : (b.enumerate e.direction)[index]? = some peer)
      {q : PortId} (hat : Bus.portAt? peer.address = some q)
      (hjoined : ∀ s, s ∈ after.subscriptions ↔
        s ∈ b.subscriptions ∨ s = Bus.subscription e.direction port q) :
      Chooses e b index client port (.ok ()) (.portOpen client port (some peer.address)) after

/-- What comes of opening a port by its index where the name fits, a client is there or can be
opened, and there is no connection. -/
structure Opened (e : Endpoint η) (b : Bus η) (index : Nat) (name : String) (client : ClientId)
    (port : PortId) (result : Except PortError Unit) (e' : Endpoint η) (after : Bus η) : Prop where
  /-- It is the client that the endpoint had, if it had one. -/
  client_eq : ∀ c, e.link.client? = some c → client = c
  /-- It is the port that the endpoint had, if it had one. -/
  port_eq : ∀ p, e.link.port? = some p → port = p
  /-- There is one port more on the bus if it had none. -/
  ports_eq : after.ports =
    if e.link.port?.isNone then b.ports ++ [(port, ⟨client, name, e.direction⟩)] else b.ports
  role_eq : after.role? port = some (client, e.direction)
  /-- A handler that the endpoint held was installed with the client. -/
  subject_eq : e' = { e with
    link := e'.link
    handler := if e.link.client?.isNone then none else e.handler }
  chooses : e.Chooses b index client port result e'.link after
  /-- Everyone who was listed would have been connected to. -/
  accepts : ∀ peer ∈ b.enumerate e.direction, (after.connect client port peer.address).1 = .ok ()

theorem connectPort_unlisted {σ : Type} {d : Driver σ η} {s s' : σ} {peers : List Peer}
    (hlink : e.link = .portOpen client port none) (hlist : d.enumerate s e.direction = (peers, s'))
    (hnone : peers[index]? = none) :
    e.connectPort d s index =
      { result := .error (.invalidPortIndex index peers.length), subject := e, driver := s',
        warnings := if peers.isEmpty then [.noPorts] else [] } := by
  simp only [connectPort, hlink, hlist, hnone]

theorem connectPort_listed {σ : Type} {d : Driver σ η} {s s' s'' : σ} {peers : List Peer}
    {peer : Peer} {delivered : List (Delivery η)} (hlink : e.link = .portOpen client port none)
    (hlist : d.enumerate s e.direction = (peers, s')) (hpeer : peers[index]? = some peer)
    (hconnect : d.connect s' client port peer.address = (.ok (), delivered, s'')) :
    e.connectPort d s index =
      { result := .ok (), subject := { e with link := .portOpen client port (some peer.address) },
        driver := s'', warnings := if peers.isEmpty then [.noPorts] else [], delivered } := by
  simp only [connectPort, hlink, hlist, hpeer, hconnect]

/-- An endpoint with a port of its own that is not connected chooses from the list. -/
theorem Readied.opened {e' : Endpoint η} {after : Bus η} (h : e.Readied b name client port e' after)
    (hfree : e.isConnected = false) :
    let o := e'.connectPort (Bus.driver settings) after index
    e.Opened b index name client port o.result o.subject o.driver := by
  intro o
  have hpeer : e.link.peer? = none := by
    simpa [isConnected] using hfree
  have hlink : e'.link = .portOpen client port none := by
    rw [h.subject_eq, hpeer]
  have hdirection : e'.direction = e.direction := by
    rw [h.subject_eq]
  have hlist : (Bus.driver settings).enumerate after e'.direction =
      (b.enumerate e.direction, after) := by
    rw [hdirection, ← h.listed_eq]
    rfl
  have hlistable : ∀ peer ∈ b.enumerate e.direction, peer ∈ after.enumerate e.direction := by
    intro peer hmem
    rwa [h.listed_eq]
  cases hindex : (b.enumerate e.direction)[index]? with
  | none =>
    have ho : o = _ := connectPort_unlisted hlink hlist hindex
    rw [ho]
    refine ⟨h.client_eq, h.port_eq, h.ports_eq, h.role_eq, ?_, ?_, fun peer hmem => ?_⟩
    · rw [h.subject_eq]
    · rw [hlink]
      exact .unlisted hindex h.subscriptions_eq
    · obtain ⟨q, subscriptions, -, hconnect, -⟩ :=
        h.consistent.connect_listed h.role_eq (hlistable peer hmem)
      rw [hconnect]
  | some chosen =>
    obtain ⟨q, subscriptions, hat, hconnect, hmem⟩ :=
      h.consistent.connect_listed h.role_eq (hlistable chosen (List.mem_of_getElem? hindex))
    have hdone : (Bus.driver settings).connect after client port chosen.address =
        (.ok (), [], { after with subscriptions }) := by
      simp only [Bus.driver, hconnect]
    have hjoined : Bus.Consistent { after with subscriptions } := by
      have hevolves := h.consistent.connect client port chosen.address
      rw [hconnect] at hevolves
      exact hevolves.consistent
    rw [h.subscriptions_eq] at hmem
    have ho : o = _ := connectPort_listed hlink hlist hindex hdone
    rw [ho]
    refine ⟨h.client_eq, h.port_eq, h.ports_eq, h.role_eq, ?_, .listed hindex hat hmem,
      fun peer hpeer => ?_⟩
    · rw [h.subject_eq]
    · obtain ⟨q, subscriptions, -, hconnect, -⟩ :=
        hjoined.connect_listed h.role_eq (hlistable peer hpeer)
      rw [hconnect]

/-- What it comes to that a port is opened by its index, on a bus in order. -/
theorem openPort_cases (hb : b.Consistent) (hstands : b.Stands e.direction e.link)
    (hspare : b.nextId.toNat + 2 < UInt32.size) (index : Nat) (name : String) :
    let o := e.openPort (Bus.driver settings) b index name
    let total := e.clientName.utf8ByteSize + 1 + name.utf8ByteSize
    (settings.nameLimit < total → o.result = .error (.invalidName name settings.nameLimit) ∧
      o.subject = e ∧ o.driver = b) ∧
    (total ≤ settings.nameLimit → e.link.client? = none → b.available = false →
      o.result = .error .driverUnavailable ∧ o.subject = e ∧ o.driver = b) ∧
    (total ≤ settings.nameLimit → e.isConnected = true →
      o.result = .ok () ∧ o.subject = e ∧ o.driver = b) ∧
    (total ≤ settings.nameLimit → (e.link.client? = none → b.available = true) →
      e.isConnected = false → ∃ client port,
        e.Opened b index name client port o.result o.subject o.driver) := by
  intro o total
  have hfits : total ≤ settings.nameLimit → e.checkName (Bus.driver settings) name = .ok () := by
    intro hle
    simp only [checkName, Bus.driver]
    rw [if_neg (Nat.not_lt.mpr hle)]
  refine ⟨fun hlong => ?_, fun hle hnone havailable => ?_, fun hle hconnected => ?_,
    fun hle hopens hfree => ?_⟩
  · have hcheck : e.checkName (Bus.driver settings) name =
        .error (.invalidName name settings.nameLimit) := by
      simp only [checkName, Bus.driver]
      rw [if_pos hlong]
    simp only [o, openPort, register, hcheck, Outcome.andThen, and_self]
  · have hlink : e.link = .disconnected := by
      cases hlink : e.link with
      | disconnected => rfl
      | clientOpen client =>
        rw [hlink] at hnone
        cases hnone
      | portOpen client port peer =>
        rw [hlink] at hnone
        cases hnone
    simp only [o, openPort, register_offline hlink havailable (hfits hle), Outcome.andThen,
      and_self]
  · obtain ⟨client, port, peer, hlink⟩ := link_of_isConnected hconnected
    have hport : e.link.port? = some port := by rw [hlink]; rfl
    simp only [o, openPort, register_of_port hport, hfits hle, Outcome.andThen, connectPort, hlink,
      and_self]
  · obtain ⟨client, port, hresult, -, hreadied⟩ :=
      register_readies hb hstands hspare (hfits hle) hopens .connectable
    refine ⟨client, port, ?_⟩
    simp only [o, openPort, Outcome.andThen, hresult]
    exact hreadied.opened hfree

end Endpoint

namespace Bench

variable {settings : Bus.Settings} {b : Bench (Bus Listener)} {who : String}
  {e : Endpoint Listener} {n : Nat}

/-! ## Whatever happened before -/

/-- Something that happens on a bench where bare endpoints stand beside inputs and outputs. -/
inductive Event where
  | step (step : Step)
  | newEndpoint (name : String) (direction : Direction) (clientName : String)
    (handler : Option Listener)
  | perform (name : String) (op : Endpoint.Operation)
  /-- A handler fails, and the dispatcher with it. -/
  | halt

/-- Performs an operation on a bare endpoint. -/
def Item.operate (d : Driver (Bus Listener) Listener) (op : Endpoint.Operation) (item : Item)
    (s : Bus Listener) : Item × Bus Listener :=
  match item with
  | .endpoint e => (e.perform d s op).map .endpoint id
  | _ => (item, s)

/-- The bench after something happened. -/
def occur (settings : Bus.Settings) (b : Bench (Bus Listener)) : Event → Bench (Bus Listener)
  | .step step => b.step settings step
  | .newEndpoint name direction clientName handler =>
    b.place (Bus.driver settings) name (.endpoint { direction, clientName, handler })
  | .perform name op => b.withItem name fun
    | .endpoint e => b.change name (.endpoint e) (Item.operate (Bus.driver settings) op)
    | _ => b
  | .halt => { b with driver := b.driver.halt }

/-- The benches that there may be, each with the number of handles that its bus has given out. -/
inductive Arrived (settings : Bus.Settings) : Nat → Bench (Bus Listener) → Prop where
  | new : Arrived settings 0 { driver := {} }
  | occur {n : Nat} {b : Bench (Bus Listener)} (h : Arrived settings n b) (event : Event) :
    Arrived settings (n + ((b.occur settings event).driver.nextId - b.driver.nextId).toNat)
      (b.occur settings event)

theorem Orderly.occur (h : b.Orderly) (event : Event)
    (hroom : b.driver.nextId ≤ (b.occur settings event).driver.nextId) :
    (b.occur settings event).Orderly := by
  cases event with
  | step step => exact h.step step hroom
  | newEndpoint name direction clientName handler =>
    refine h.place (fun e he => ?_) hroom
    cases he
    rfl
  | perform name op =>
    refine h.withItem (fun item hitem hroom => ?_) hroom
    cases item with
    | endpoint e =>
      have hperforms : (Item.endpoint e).Performs (Bus.driver settings) op b.driver
          (Item.operate (Bus.driver settings) op (.endpoint e) b.driver) := .inr ⟨e, rfl, rfl, rfl⟩
      exact h.changed hitem hperforms hroom
    | _ => exact h
  | halt => exact h.of_system (.of_same h.consistent.halt rfl rfl rfl _) fun _ => rfl

/-- As long as there are handles left, the next one is behind those that were given out, and the
bench is in order. -/
theorem Arrived.orderly (h : Arrived settings n b) (hids : n + 1 < UInt32.size) :
    b.driver.nextId.toNat = n + 1 ∧ b.Orderly := by
  induction h with
  | new => exact ⟨rfl, orderly_new⟩
  | @occur n b _ event ih =>
    obtain ⟨hnext, horderly⟩ := ih (by omega)
    generalize hafter : (b.occur settings event).driver.nextId = last at hids
    have hlast := last.toNat_lt
    have hsize : UInt32.size = 4294967296 := rfl
    rw [UInt32.toNat_sub, hnext] at hids
    rw [UInt32.toNat_sub, hnext]
    -- the counter did not come round, or too many handles would have been given out
    have hroom : n + 1 ≤ last.toNat := by omega
    refine ⟨by omega, horderly.occur event ?_⟩
    rw [hafter, UInt32.le_iff_toNat_le, hnext]
    exact hroom

/-- **Opening a port on the bus.** Whatever endpoints of any number did on a bus, while its own
ports came and went and new clients were let in or kept out, take an endpoint on it and have it open
a port by its index. If the two names are too long together, that is the error and nothing changes.
Else, if the endpoint has no client and the bus lets none in, that is the error and nothing changes.
Else, if the endpoint is connected already, nothing changes. Else it has its one port, as `Opened`
says, and chooses from the ports that were listed before: it is connected to the one at the index
and subscribed to it, or there is none and the error says how many there are. No listed port could
have been refused. -/
theorem openPort_on_bus (h : Arrived settings n b) (hids : n + 3 < UInt32.size)
    (he : b.endpoint? who = some e) (index : Nat) (name : String) :
    let o := e.openPort (Bus.driver settings) b.driver index name
    let total := e.clientName.utf8ByteSize + 1 + name.utf8ByteSize
    (settings.nameLimit < total → o.result = .error (.invalidName name settings.nameLimit) ∧
      o.subject = e ∧ o.driver = b.driver) ∧
    (total ≤ settings.nameLimit → e.link.client? = none → b.driver.available = false →
      o.result = .error .driverUnavailable ∧ o.subject = e ∧ o.driver = b.driver) ∧
    (total ≤ settings.nameLimit → e.isConnected = true →
      o.result = .ok () ∧ o.subject = e ∧ o.driver = b.driver) ∧
    (total ≤ settings.nameLimit → (e.link.client? = none → b.driver.available = true) →
      e.isConnected = false → ∃ client port,
        e.Opened b.driver index name client port o.result o.subject o.driver) := by
  have hsize : UInt32.size = 4294967296 := rfl
  obtain ⟨hnext, horderly⟩ := h.orderly (by omega)
  have hspare : b.driver.nextId.toNat + 2 < UInt32.size := by omega
  exact Endpoint.openPort_cases horderly.consistent (horderly.stands who e he) hspare index name

/-- There are two sources, and an input has its port but no connection yet. -/
def ready : Bench (Bus Listener) :=
  [Event.step (.addSource "Keys"), .step (.addSource "Pads"),
    .newEndpoint "deck" .input "deck" (some (.input "deck")),
    .perform "deck" (.register "in" .connectable), .halt].foldl (occur {}) { driver := {} }

theorem ready_arrived : Arrived {} 4 ready := by
  have h : Arrived {} 0 { driver := {} } := Arrived.new
  have h := h.occur (.step (.addSource "Keys"))
  have h := h.occur (.step (.addSource "Pads"))
  have h := h.occur (.newEndpoint "deck" .input "deck" (some (.input "deck")))
  have h := h.occur (.perform "deck" (.register "in" .connectable))
  exact h.occur .halt

/-- It is connected to the second of them. -/
theorem openPort_on_bus_second :
    ∃ e, (Arrived {} 4 ready ∧ 4 + 3 < UInt32.size ∧ ready.endpoint? "deck" = some e ∧
        e.clientName.utf8ByteSize + 1 + ("in" : String).utf8ByteSize ≤ 256 ∧
        (e.link.client? = none → ready.driver.available = true) ∧ e.isConnected = false) ∧
      let o := e.openPort (Bus.driver {}) ready.driver 1 "in"
      o.result = .ok () ∧ o.subject.link = .portOpen ⟨3⟩ ⟨4⟩ (some ⟨"2"⟩) ∧
        ∃ client port, e.Opened ready.driver 1 "in" client port o.result o.subject o.driver := by
  let e : Endpoint Listener :=
    { direction := .input, clientName := "deck", link := .portOpen ⟨3⟩ ⟨4⟩ none }
  have he : ready.endpoint? "deck" = some e := rfl
  have hids : 4 + 3 < UInt32.size := by decide
  have hfits : e.clientName.utf8ByteSize + 1 + ("in" : String).utf8ByteSize ≤ 256 := by decide
  have hopens : e.link.client? = none → ready.driver.available = true := nofun
  have hfree : e.isConnected = false := rfl
  obtain ⟨-, -, -, hopened⟩ := openPort_on_bus ready_arrived hids he 1 "in"
  refine ⟨e, ⟨ready_arrived, hids, he, hfits, hopens, hfree⟩, ?_, ?_,
    hopened hfits hopens hfree⟩
  · decide +kernel
  · decide +kernel

end Bench

end PatchBay
