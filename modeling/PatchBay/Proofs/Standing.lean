import PatchBay.Proofs.Lifecycle
import PatchBay.Proofs.Seats

/-!
# Operations of an endpoint on a bus

An endpoint acts as one client: the one that it has, or the next one that the bus opens. After each
of its operations, whatever comes of it, the endpoint's link stands on the bus, the endpoint has no
other client, and what other clients have is in force as before. The operation must leave the
bus's counter of handles where it is or further on: a counter that came round would give handles out
twice.
-/

namespace PatchBay

namespace Bus

variable {η : Type} {b : Bus η} {client : ClientId}

/-! ## The counter of handles -/

theorem spare_of_le {n : UInt32} (h : n ≤ n + 1) : n.toNat + 1 < UInt32.size := by
  have hlt := n.toNat_lt
  have hone : (1 : UInt32).toNat = 1 := rfl
  have hsize : UInt32.size = 4294967296 := rfl
  rw [UInt32.le_iff_toNat_le, UInt32.toNat_add, hone] at h
  omega

/-- Of two steps that take a handle each or none, neither makes the counter come round if the two
together do not. -/
theorem le_between {n mid last : UInt32} (hmid : mid = n ∨ mid = n + 1)
    (hlast : last = mid ∨ last = mid + 1) (h : n ≤ last) : n ≤ mid ∧ mid ≤ last := by
  grind

theorem setHandler_nextId (b : Bus η) (client : ClientId) (handler : η) :
    (b.setHandler client handler).2.nextId = b.nextId := by
  unfold setHandler
  split
  · rfl
  · rfl

theorem registerPort_nextId (b : Bus η) (client : ClientId) (name : String)
    (direction : Direction) : (b.registerPort client name direction).2.nextId = b.nextId ∨
      (b.registerPort client name direction).2.nextId = b.nextId + 1 := by
  unfold registerPort
  split
  · exact .inr rfl
  · exact .inl rfl

theorem connect_nextId (b : Bus η) (client : ClientId) (port : PortId) (peer : Address) :
    (b.connect client port peer).2.nextId = b.nextId := by
  rcases b.connect_cases client port peer with hsame | ⟨s, -, -, -, -, hjoined⟩
  · rw [hsame]
  · rw [hjoined]

end Bus

namespace Endpoint

variable {η : Type} {settings : Bus.Settings} {b mid after : Bus η} {e e₁ e₂ : Endpoint η}
  {actor client : ClientId} {name : String} {kind : PortKind} {index : Nat}

/-- The client that an endpoint acts as: its own, or the next one. -/
def seat (e : Endpoint η) (b : Bus η) : ClientId := e.link.client?.getD ⟨b.nextId⟩

/-- What comes of an operation of an endpoint that acts as a client. -/
structure Works (actor : ClientId) (e : Endpoint η) (b : Bus η) (e' : Endpoint η)
    (after : Bus η) : Prop where
  upholds : b.Upholds actor after
  direction_eq : e'.direction = e.direction
  stands : after.Stands e'.direction e'.link
  client_eq : ∀ c, e'.link.client? = some c → c = actor

theorem seat_eq (hclient : e.link.client? = some client) : e.seat b = client := by
  rw [seat, hclient, Option.getD_some]

theorem client_eq_seat {c : ClientId} (hclient : e.link.client? = some c) : c = e.seat b :=
  (seat_eq hclient).symm

/-- Nothing was done. -/
theorem Works.idle (hb : b.Consistent) (hstands : b.Stands e.direction e.link)
    (hclient : ∀ c, e.link.client? = some c → c = actor) : e.Works actor b e b :=
  ⟨.refl hb actor, rfl, hstands, hclient⟩

theorem Works.trans (hb : b.Consistent) (h : e.Works actor b e₁ mid)
    (h' : e₁.Works actor mid e₂ after) : e.Works actor b e₂ after :=
  ⟨h.upholds.trans hb h'.upholds, h'.direction_eq.trans h.direction_eq, h'.stands, h'.client_eq⟩

/-- The bus changed in a way that is open to everybody, and the link is the same. -/
theorem Works.of_upholds (hupholds : ∀ c, b.Upholds c after)
    (hstands : b.Stands e.direction e.link)
    (hclient : ∀ c, e.link.client? = some c → c = actor) (hlink : e₁.link = e.link)
    (hdirection : e₁.direction = e.direction) : e.Works actor b e₁ after := by
  refine ⟨hupholds actor, hdirection, ?_, by rwa [hlink]⟩
  rw [hdirection, hlink]
  exact hstands.upholds_system (hupholds Bus.system)

/-! ## Opening a client -/

/-- Either nothing is done, or a client is opened, with or without a handler. -/
theorem ensureClient_cases (settings : Bus.Settings) (e : Endpoint η) (b : Bus η) :
    let o := e.ensureClient (Bus.driver settings) b
    (o.subject = e ∧ o.driver = b ∧ ∀ c, o.result = .ok c → e.link.client? = some c) ∨
      (e.link.client? = none ∧ b.available = true ∧ o.result = .ok ⟨b.nextId⟩ ∧
        o.subject.link = .clientOpen ⟨b.nextId⟩ ∧ o.subject.direction = e.direction ∧
        (o.driver = (b.openClient e.clientName).2 ∨ ∃ handler,
          o.driver = ((b.openClient e.clientName).2.setHandler ⟨b.nextId⟩ handler).2)) := by
  intro o
  cases hclient : e.link.client? with
  | some client =>
    have ho : o = { result := .ok client, subject := e, driver := b } := by
      simp only [o, ensureClient, hclient]
    rw [ho]
    refine .inl ⟨rfl, rfl, fun c hc => ?_⟩
    cases hc
    rfl
  | none =>
    cases havailable : b.available with
    | false =>
      refine .inl ?_
      simp [o, ensureClient, hclient, Bus.driver, Bus.openClient, havailable]
    | true =>
      have hopened : (b.openClient e.clientName).2.hasClient ⟨b.nextId⟩ = true := by
        rw [Bus.hasClient_iff]
        simp [Bus.openClient, havailable]
      have hopen : (Bus.driver settings).openClient b e.clientName =
          (.ok ⟨b.nextId⟩, (b.openClient e.clientName).2) := by
        simp [Bus.driver, Bus.openClient, havailable]
      have hset : ∀ handler,
          (Bus.driver settings).setHandler (b.openClient e.clientName).2 ⟨b.nextId⟩ handler =
            (.ok (), ((b.openClient e.clientName).2.setHandler ⟨b.nextId⟩ handler).2) := by
        intro handler
        simp [Bus.driver, Bus.setHandler, hopened]
      refine .inr ⟨rfl, rfl, ?_⟩
      cases hhandler : e.handler with
      | none => simp [o, ensureClient, hclient, hopen, hhandler]
      | some handler =>
        have ho : o =
            { result := .ok ⟨b.nextId⟩
              subject := { e with link := .clientOpen ⟨b.nextId⟩, handler := none }
              driver := ((b.openClient e.clientName).2.setHandler ⟨b.nextId⟩ handler).2 } := by
          simp only [o, ensureClient, hclient, hopen, hhandler, hset]
        rw [ho]
        exact ⟨rfl, rfl, rfl, .inr ⟨handler, rfl⟩⟩

theorem openClient_nextId (havailable : b.available = true) :
    (b.openClient name).2.nextId = b.nextId + 1 := by
  simp [Bus.openClient, havailable, Bus.takeId]

theorem ensureClient_nextId (settings : Bus.Settings) (e : Endpoint η) (b : Bus η) :
    (e.ensureClient (Bus.driver settings) b).driver.nextId = b.nextId ∨
      (e.ensureClient (Bus.driver settings) b).driver.nextId = b.nextId + 1 := by
  rcases ensureClient_cases settings e b with
    ⟨-, hsame, -⟩ | ⟨-, havailable, -, -, -, hopen | ⟨handler, hset⟩⟩
  · rw [hsame]
    exact .inl rfl
  · rw [hopen]
    exact .inr (openClient_nextId havailable)
  · rw [hset, Bus.setHandler_nextId]
    exact .inr (openClient_nextId havailable)

/-- The endpoint has a client afterwards if there was no error. -/
theorem ensureClient_works (hb : b.Consistent) (hstands : b.Stands e.direction e.link)
    (hroom : b.nextId ≤ (e.ensureClient (Bus.driver settings) b).driver.nextId) :
    e.Works (e.seat b) b (e.ensureClient (Bus.driver settings) b).subject
        (e.ensureClient (Bus.driver settings) b).driver ∧
      ∀ c, (e.ensureClient (Bus.driver settings) b).result = .ok c →
        (e.ensureClient (Bus.driver settings) b).subject.link.client? = some c := by
  rcases ensureClient_cases settings e b with
    ⟨hsubject, hdriver, hok⟩ | ⟨hclient, havailable, hok, hlink, hdirection, hdriver⟩
  · rw [hsubject, hdriver]
    exact ⟨.idle hb hstands fun c hc => client_eq_seat hc, hok⟩
  have hseat : e.seat b = ⟨b.nextId⟩ := by rw [seat, hclient, Option.getD_none]
  have hnext : (e.ensureClient (Bus.driver settings) b).driver.nextId = b.nextId + 1 := by
    rcases hdriver with hopen | ⟨handler, hset⟩
    · rw [hopen, openClient_nextId havailable]
    · rw [hset, Bus.setHandler_nextId, openClient_nextId havailable]
  rw [hnext] at hroom
  have hopened : (b.openClient e.clientName).2.Seats ⟨b.nextId⟩ := by
    refine ⟨hb.next_ne_system, ?_⟩
    rw [Bus.hasClient_iff]
    simp [Bus.openClient, havailable]
  have hfirst := hb.upholds_openClient (fun _ => Bus.spare_of_le hroom) e.clientName
  have hworks : ∀ after, (∀ c, b.Upholds c after) → after.Seats ⟨b.nextId⟩ →
      e.Works (e.seat b) b (e.ensureClient (Bus.driver settings) b).subject after := by
    intro after hupholds hseats
    refine ⟨hupholds _, hdirection, by rw [hlink]; exact hseats, fun c hc => ?_⟩
    rw [hlink] at hc
    cases hc
    exact hseat.symm
  refine ⟨?_, fun c hc => ?_⟩
  · rcases hdriver with hopen | ⟨handler, hset⟩
    · rw [hopen]
      exact hworks _ hfirst hopened
    · have hsecond := (hfirst Bus.system).consistent.upholds_setHandler ⟨b.nextId⟩ handler
      rw [hset]
      exact hworks _ (fun c => (hfirst c).trans hb (hsecond c))
        (hopened.upholds (hsecond Bus.system) hb.next_ne_system)
  · rw [hok] at hc
    cases hc
    rw [hlink]
    rfl

/-! ## Registering a port -/

theorem ensurePort_nextId (settings : Bus.Settings) (e : Endpoint η) (b : Bus η)
    (client : ClientId) (name : String) (kind : PortKind) :
    (e.ensurePort (Bus.driver settings) b client name kind).driver.nextId = b.nextId ∨
      (e.ensurePort (Bus.driver settings) b client name kind).driver.nextId = b.nextId + 1 := by
  have hregister := b.registerPort_nextId client name e.direction
  unfold ensurePort
  simp only [Bus.driver]
  split
  · exact .inl rfl
  split
  · rename_i heq
    rwa [heq] at hregister
  · rename_i heq
    rwa [heq] at hregister

theorem ensurePort_works (hb : b.Consistent) (hstands : b.Stands e.direction e.link)
    (hclient : e.link.client? = some client)
    (hroom : b.nextId ≤ (e.ensurePort (Bus.driver settings) b client name kind).driver.nextId) :
    e.Works client b (e.ensurePort (Bus.driver settings) b client name kind).subject
      (e.ensurePort (Bus.driver settings) b client name kind).driver := by
  have hidle : ∀ c, e.link.client? = some c → c = client := by
    intro c hc
    rw [hclient] at hc
    exact (Option.some.inj hc).symm
  have hseats := hstands.seats hclient
  cases hport : e.link.port? with
  | some port =>
    have hdone : e.ensurePort (Bus.driver settings) b client name kind =
        { result := .ok port, subject := e, driver := b } := by
      simp only [ensurePort, hport]
    rw [hdone]
    exact .idle hb hstands hidle
  | none =>
    have hregister : (Bus.driver settings).registerPort b client name e.direction kind =
        (.ok ⟨b.nextId⟩, (b.addPort ⟨client, name, e.direction⟩).2) := by
      simp only [Bus.driver, Bus.registerPort, hseats.2, if_true]
      rfl
    have hdone : e.ensurePort (Bus.driver settings) b client name kind =
        { result := .ok ⟨b.nextId⟩
          subject := { e with link := .portOpen client ⟨b.nextId⟩ none }
          driver := (b.addPort ⟨client, name, e.direction⟩).2 } := by
      simp only [ensurePort, hport, hregister]
    rw [hdone] at hroom ⊢
    have hspare := Bus.spare_of_le hroom
    have hupholds := hb.upholds_addPort hspare ⟨client, name, e.direction⟩ hseats.2
    have hseats' := hseats.upholds (hupholds Bus.system) hseats.1
    refine ⟨hupholds client, rfl, ⟨hseats', Bus.role?_addPort_self hb _, fun a ha => ?_⟩,
      fun c hc => (Option.some.inj hc).symm⟩
    cases ha

theorem register_works (hb : b.Consistent) (hstands : b.Stands e.direction e.link)
    (hroom : b.nextId ≤ (e.register (Bus.driver settings) b name kind).driver.nextId) :
    e.Works (e.seat b) b (e.register (Bus.driver settings) b name kind).subject
      (e.register (Bus.driver settings) b name kind).driver := by
  have hfirst := ensureClient_nextId settings e b
  unfold register at hroom ⊢
  split
  · exact .idle hb hstands fun c hc => client_eq_seat hc
  rename_i hcheck
  rw [hcheck] at hroom
  dsimp only at hroom
  cases hresult : (e.ensureClient (Bus.driver settings) b).result with
  | error err =>
    simp only [Outcome.andThen, hresult] at hroom ⊢
    exact (ensureClient_works hb hstands hroom).1
  | ok client =>
    simp only [Outcome.andThen, hresult] at hroom ⊢
    obtain ⟨hroom₁, hroom₂⟩ := Bus.le_between hfirst
      (ensurePort_nextId settings _ _ client name kind) hroom
    obtain ⟨hworks, hok⟩ := ensureClient_works hb hstands hroom₁
    have hclient := hok client hresult
    have hseat := hworks.client_eq client hclient
    refine hworks.trans hb ?_
    rw [← hseat]
    exact ensurePort_works hworks.upholds.consistent hworks.stands hclient hroom₂

/-! ## Connecting -/

/-- Either nothing is done, or the driver is asked to connect the port to a peer, and the endpoint
takes down the peer if that succeeds. -/
theorem connectPort_cases (settings : Bus.Settings) (e : Endpoint η) (b : Bus η) (index : Nat) :
    let o := e.connectPort (Bus.driver settings) b index
    (o.subject = e ∧ o.driver = b) ∨ ∃ client port peer, e.link = .portOpen client port none ∧
      o.driver = (b.connect client port peer).2 ∧
        (o.subject = e ∨ (b.connect client port peer).1 = .ok () ∧
          o.subject = { e with link := .portOpen client port (some peer) }) := by
  unfold connectPort
  simp only [Bus.driver]
  split
  · exact .inl ⟨rfl, rfl⟩
  · rename_i client port hlink
    split
    · exact .inl ⟨rfl, rfl⟩
    rename_i peer _
    refine .inr ⟨client, port, peer.address, hlink, ?_⟩
    cases hresult : (b.connect client port peer.address).1 with
    | error err => exact ⟨rfl, .inl rfl⟩
    | ok u => exact ⟨rfl, .inr ⟨rfl, rfl⟩⟩
  · exact .inl ⟨rfl, rfl⟩

theorem connectPort_nextId (settings : Bus.Settings) (e : Endpoint η) (b : Bus η) (index : Nat) :
    (e.connectPort (Bus.driver settings) b index).driver.nextId = b.nextId := by
  rcases connectPort_cases settings e b index with
    ⟨-, hdriver⟩ | ⟨client, port, peer, -, hdriver, -⟩
  · rw [hdriver]
  · rw [hdriver, Bus.connect_nextId]

theorem connectPort_works (hb : b.Consistent) (hstands : b.Stands e.direction e.link)
    (hclient : ∀ c, e.link.client? = some c → c = actor) :
    e.Works actor b (e.connectPort (Bus.driver settings) b index).subject
      (e.connectPort (Bus.driver settings) b index).driver := by
  rcases connectPort_cases settings e b index with
    ⟨hsubject, hdriver⟩ | ⟨client, port, peer, hlink, hdriver, hsubject⟩
  · rw [hsubject, hdriver]
    exact .idle hb hstands hclient
  have hupholds := hb.upholds_connect client port peer
  rw [hdriver]
  rcases hsubject with hsubject | ⟨hok, hsubject⟩
  · rw [hsubject]
    exact .of_upholds hupholds hstands hclient rfl rfl
  · have hafter := hstands.upholds_system (hupholds Bus.system)
    rw [hlink] at hstands hafter hclient
    rw [hsubject]
    refine ⟨hupholds actor, rfl, ⟨hafter.1, hafter.2.1, fun a ha => ?_⟩, hclient⟩
    cases ha
    exact hb.connect_linked hstands.2.1 hok

theorem openPort_works (hb : b.Consistent) (hstands : b.Stands e.direction e.link)
    (hroom : b.nextId ≤ (e.openPort (Bus.driver settings) b index name).driver.nextId) :
    e.Works (e.seat b) b (e.openPort (Bus.driver settings) b index name).subject
      (e.openPort (Bus.driver settings) b index name).driver := by
  unfold openPort Outcome.andThen at hroom ⊢
  split
  · rename_i hresult
    rw [hresult] at hroom
    exact register_works hb hstands hroom
  · rename_i hresult
    rw [hresult] at hroom
    dsimp only at hroom ⊢
    rw [connectPort_nextId] at hroom
    have hworks := register_works hb hstands hroom
    exact hworks.trans hb (connectPort_works hworks.upholds.consistent hworks.stands
      hworks.client_eq)

theorem openVirtualPort_works (hb : b.Consistent) (hstands : b.Stands e.direction e.link)
    (hroom : b.nextId ≤ (e.openVirtualPort (Bus.driver settings) b name).driver.nextId) :
    e.Works (e.seat b) b (e.openVirtualPort (Bus.driver settings) b name).subject
      (e.openVirtualPort (Bus.driver settings) b name).driver := by
  unfold openVirtualPort Outcome.andThen at hroom ⊢
  split
  · rename_i hresult
    rw [hresult] at hroom
    exact register_works hb hstands hroom
  · rename_i hresult
    rw [hresult] at hroom
    exact register_works hb hstands hroom

/-! ## Closing -/

theorem closePort_works (hb : b.Consistent) (hstands : b.Stands e.direction e.link)
    (hclient : ∀ c, e.link.client? = some c → c = actor) :
    e.Works actor b (e.closePort (Bus.driver settings) b).1
      (e.closePort (Bus.driver settings) b).2 := by
  unfold closePort
  split
  · rename_i client port peer hlink
    have hown : e.link.client? = some client := by rw [hlink, Link.client?]
    have hseats := hstands.seats hown
    have hactor := hclient client hown
    -- the connection goes with the port
    have hclosed : (Bus.driver settings).unregisterPort
        (if peer.isSome then (Bus.driver settings).disconnect b client port else b) client port =
          b.unregisterPort client port := by
      split
      · exact Bus.unregisterPort_disconnect b client port
      · rfl
    dsimp only
    rw [hclosed, hactor]
    refine ⟨hb.upholds_unregisterPort actor port, rfl, ?_, fun c hc => (Option.some.inj hc).symm⟩
    rw [hactor] at hseats
    exact ⟨hseats.1, by rw [Bus.hasClient_unregisterPort, hseats.2]⟩
  · exact .idle hb hstands hclient

theorem shutdown_works (hb : b.Consistent) (hstands : b.Stands e.direction e.link)
    (hclient : ∀ c, e.link.client? = some c → c = actor) :
    e.Works actor b (e.shutdown (Bus.driver settings) b).1
      (e.shutdown (Bus.driver settings) b).2 := by
  have hworks : e.Works actor b (e.closePort (Bus.driver settings) b).1
      (e.closePort (Bus.driver settings) b).2 := closePort_works hb hstands hclient
  unfold shutdown
  dsimp only
  split
  · rename_i client hopen
    have hactor := hworks.client_eq client hopen
    rw [hactor]
    refine hworks.trans hb
      ⟨hworks.upholds.consistent.upholds_closeClient actor, rfl, trivial, nofun⟩
  · exact hworks

/-! ## Names -/

theorem setPortName_works (hb : b.Consistent) (hstands : b.Stands e.direction e.link)
    (hclient : ∀ c, e.link.client? = some c → c = actor) :
    e.Works actor b (e.setPortName (Bus.driver settings) b name).subject
      (e.setPortName (Bus.driver settings) b name).driver := by
  have hidle := Works.idle hb hstands hclient
  unfold setPortName
  split
  · rename_i client port peer _
    have hrenamed : ∀ c,
        b.Upholds c ((Bus.driver settings).renamePort b client port name).2 := by
      intro c
      simp only [Bus.driver]
      split
      · exact hb.upholds_renamePort client port name c
      · exact .refl hb c
    split
    · exact hidle
    split
    · rename_i heq
      rw [heq] at hrenamed
      exact .of_upholds hrenamed hstands hclient rfl rfl
    · rename_i heq
      rw [heq] at hrenamed
      exact .of_upholds hrenamed hstands hclient rfl rfl
  · exact hidle

theorem setClientName_works (hb : b.Consistent) (hstands : b.Stands e.direction e.link)
    (hclient : ∀ c, e.link.client? = some c → c = actor) :
    e.Works actor b (e.setClientName (Bus.driver settings) b name).subject
      (e.setClientName (Bus.driver settings) b name).driver := by
  unfold setClientName
  split
  · exact .of_upholds (fun c => .refl hb c) hstands hclient rfl rfl
  · exact .idle hb hstands hclient

/-! ## Any operation -/

/-- An operation. -/
theorem perform_works (hb : b.Consistent) (hstands : b.Stands e.direction e.link)
    (op : Operation) (hroom : b.nextId ≤ (e.perform (Bus.driver settings) b op).2.nextId) :
    e.Works (e.seat b) b (e.perform (Bus.driver settings) b op).1
      (e.perform (Bus.driver settings) b op).2 := by
  have hclient : ∀ c, e.link.client? = some c → c = e.seat b := fun _ hc => client_eq_seat hc
  cases op with
  | ensureClient => exact (ensureClient_works hb hstands hroom).1
  | register name kind => exact register_works hb hstands hroom
  | connectPort index => exact connectPort_works hb hstands hclient
  | openPort index name => exact openPort_works hb hstands hroom
  | openVirtualPort name => exact openVirtualPort_works hb hstands hroom
  | closePort => exact closePort_works hb hstands hclient
  | setPortName name => exact setPortName_works hb hstands hclient
  | setClientName name => exact setClientName_works hb hstands hclient
  | shutdown => exact shutdown_works hb hstands hclient

end Endpoint

/-! ## Sending -/

variable {η : Type} {b : Bus η}

theorem Bus.upholds_of_transmit (hb : b.Consistent) {settings : Bus.Settings} {client : ClientId}
    {port : PortId} {bytes : Bytes} {encoder grown : Encoder} {result : Except DriverError Nat}
    {after : Bus η}
    (h : (Bus.driver settings).transmit b client port bytes encoder = (result, grown, after))
    (actor : ClientId) : b.Upholds actor after := by
  have hstep := hb.upholds_transmit client port bytes encoder actor
  have hafter : (b.transmit client port bytes encoder).2.2 = after := congrArg (·.2.2) h
  rwa [hafter] at hstep

theorem Encoder.transmitAll_upholds (hb : b.Consistent) (settings : Bus.Settings)
    (client : ClientId) (port : PortId) (offset events : Nat) (rest : Bytes) (encoder : Encoder)
    (actor : ClientId) :
    b.Upholds actor
      (transmitAll (Bus.driver settings) client port offset events rest encoder b).driver := by
  fun_induction transmitAll (Bus.driver settings) client port offset events rest encoder b with
  | case1 => exact .refl hb actor
  | case2 _ _ _ _ _ _ _ _ _ heq => exact Bus.upholds_of_transmit hb heq actor
  | case3 _ _ _ _ _ _ _ _ heq => exact Bus.upholds_of_transmit hb heq actor
  | case4 _ _ _ _ _ _ _ _ _ heq ih =>
    have hfirst := Bus.upholds_of_transmit hb heq actor
    exact hfirst.trans hb (ih hfirst.consistent)

theorem Encoder.send_upholds (hb : b.Consistent) (settings : Bus.Settings) (client : ClientId)
    (port : PortId) (bytes : Bytes) (encoder : Encoder) (actor : ClientId) :
    b.Upholds actor (encoder.send (Bus.driver settings) client port bytes b).driver := by
  unfold send
  split
  · exact .refl hb actor
  split
  · exact .refl hb actor
  rename_i grown _
  have hloop := transmitAll_upholds hb settings client port 0 0 bytes grown actor
  split
  · rename_i heq
    rwa [heq] at hloop
  rename_i s heq
  rw [heq] at hloop
  have hdrained := hloop.trans hb (hloop.consistent.upholds_drain client actor)
  cases hdrain : (Bus.driver settings).drain s client with
  | mk drained after =>
    have hafter : (s.drain client).2 = after := congrArg Prod.snd hdrain
    rw [hafter] at hdrained
    cases drained with
    | error err => exact hdrained
    | ok _ => exact hdrained

theorem Output.send_upholds (hb : b.Consistent) (settings : Bus.Settings) (o : Output η)
    (bytes : Bytes) (actor : ClientId) :
    b.Upholds actor (o.send (Bus.driver settings) b bytes).2.2 ∧
      (o.send (Bus.driver settings) b bytes).2.1.endpoint = o.endpoint := by
  unfold send
  split
  · exact ⟨Encoder.send_upholds hb settings _ _ bytes o.encoder actor, rfl⟩
  · exact ⟨.refl hb actor, rfl⟩

end PatchBay
