import PatchBay.Proofs.Patch

/-!
# Connecting an output to an input

A fresh input and a fresh output on one bus, of which either publishes a virtual port and the other
one connects to it, are joined by a line. The bus may hold any other clients, ports and events, as
long as its handles are not used up.
-/

namespace PatchBay

namespace Bus

variable {η : Type} {b : Bus η} {l : Line} {handler : η}

/-- Handles were given out in order: those from the next one on are new. -/
structure Numbered (b : Bus η) : Prop where
  pos : 0 < b.nextId
  ports : ∀ p ∈ b.ports, p.1.number < b.nextId
  subscriptions : ∀ s ∈ b.subscriptions, s.1.number < b.nextId ∧ s.2.number < b.nextId
  queue : ∀ batch ∈ b.queue, batch.port.number < b.nextId
  outbox : ∀ q ∈ b.outbox, q.destination.number < b.nextId

theorem numbered_empty : Numbered ({} : Bus η) :=
  ⟨UInt32.lt_iff_toNat_lt.mpr Nat.one_pos, by simp, by simp, by simp, by simp⟩

theorem Numbered.lookup_none (h : b.Numbered) {port : PortId} (hnew : b.nextId ≤ port.number) :
    b.ports.lookup port = none := by
  rw [List.lookup_eq_none_iff]
  intro p hp
  have hold := h.ports p hp
  rw [bne_iff_ne]
  rintro rfl
  grind

/-- A line between two new ports is in order as soon as they are registered and connected. -/
theorem Numbered.carries (h : b.Numbered) {after : Bus η} {source target : Port}
    (hsource : after.ports.lookup l.source = some source) (howner : source.owner = l.sender)
    (hdirection : source.direction = .output)
    (htarget : after.ports.lookup l.target = some target) (hreceiver : target.owner = l.receiver)
    (hsourceNew : b.nextId ≤ l.source.number) (htargetNew : b.nextId ≤ l.target.number)
    (huser : l.receiver ≠ system) (hlistens : after.handlers.lookup l.receiver = some handler)
    (hsubscriptions : after.subscriptions = b.subscriptions ++ [(l.source, l.target)])
    (hqueue : after.queue = b.queue) (houtbox : after.outbox = b.outbox)
    (hdispatching : after.dispatching = true) :
    after.Carries l handler ∧ after.inFlight l = [] := by
  have hold : ∀ batch ∈ b.queue, batch.port ≠ l.target := by
    rintro batch hmem heq
    have hlt := h.queue batch hmem
    rw [heq] at hlt
    grind
  refine ⟨⟨⟨source, hsource, howner, hdirection⟩, ⟨target, htarget, hreceiver⟩, huser, hlistens, ?_,
    hdispatching, ?_⟩, ?_⟩
  · have hnone : b.subscriptions.filter (·.1 = l.source) = [] := by
      rw [List.filter_eq_nil_iff]
      intro s hs heq
      obtain ⟨hlt, -⟩ := h.subscriptions s hs
      rw [of_decide_eq_true heq] at hlt
      grind
    rw [destinations, hsubscriptions, List.filter_append, hnone]
    simp
  · rw [hqueue]
    exact fun batch hmem hto => absurd hto (hold batch hmem)
  · have hqueued : after.queuedFor l.target = [] := by
      rw [queuedFor, hqueue, List.filter_eq_nil_iff.mpr fun batch hmem => by simp [hold batch hmem]]
      rfl
    have hwaiting : after.waitingFor l.sender l.target = [] := by
      rw [waitingFor, houtbox, List.filter_eq_nil_iff.mpr]
      · rfl
      · rintro q hmem heq
        obtain ⟨-, hto⟩ := of_decide_eq_true heq
        have hlt := h.outbox q hmem
        rw [hto] at hlt
        grind
    rw [inFlight, hqueued, hwaiting]
    rfl

theorem Numbered.unsubscribed (h : b.Numbered) {source target : PortId}
    (hnew : b.nextId ≤ source.number ∨ b.nextId ≤ target.number) :
    (source, target) ∉ b.subscriptions := by
  intro hmem
  obtain ⟨hsource, htarget⟩ := h.subscriptions _ hmem
  grind

end Bus

/-- Of two operations one after the other that succeed, both succeed. -/
theorem Outcome.andThen_ok {ω σ η α β : Type} {first : Outcome ω σ η α}
    {f : α → ω → σ → Outcome ω σ η β} {result : β} (h : (first.andThen f).result = .ok result) :
    ∃ a, first.result = .ok a ∧ (f a first.subject first.driver).result = .ok result ∧
      (first.andThen f).subject = (f a first.subject first.driver).subject ∧
      (first.andThen f).driver = (f a first.subject first.driver).driver := by
  unfold Outcome.andThen at h ⊢
  split at h
  · cases h
  · rename_i a ha
    rw [ha]
    exact ⟨a, rfl, h, rfl, rfl⟩

namespace Endpoint

variable {η : Type} {b : Bus η} {e : Endpoint η} {settings : Bus.Settings} {name : String}
  {kind : PortKind} {port : PortId}

/-- The bus after a fresh endpoint registered a port on it. -/
def registered (e : Endpoint η) (b : Bus η) (name : String) : Bus η :=
  { b with
    nextId := b.nextId + 1 + 1
    clients := b.clients ++ [(⟨b.nextId⟩, e.clientName)]
    handlers :=
      match e.handler with
      | none => b.handlers
      | some handler => b.handlers.filter (·.1 ≠ ⟨b.nextId⟩) ++ [(⟨b.nextId⟩, handler)]
    ports := b.ports ++ [(⟨b.nextId + 1⟩, ⟨⟨b.nextId⟩, name, e.direction⟩)] }

theorem lt_succ {n : UInt32} {k : Nat} (h : n.toNat + k < UInt32.size) (hk : 0 < k) :
    n < n + 1 ∧ (n + 1).toNat = n.toNat + 1 := by
  have hone : (n + 1).toNat = n.toNat + 1 := by
    rw [UInt32.toNat_add]
    change (n.toNat + 1) % UInt32.size = n.toNat + 1
    exact Nat.mod_eq_of_lt (by omega)
  exact ⟨by rw [UInt32.lt_iff_toNat_lt, hone]; omega, hone⟩

theorem registered_lookup (hb : b.Numbered) (hspare : b.nextId.toNat + 2 < UInt32.size) :
    (e.registered b name).ports.lookup ⟨b.nextId + 1⟩ =
      some ⟨⟨b.nextId⟩, name, e.direction⟩ := by
  have hnew : b.nextId ≤ b.nextId + 1 := by
    have hlt := (lt_succ hspare (by decide)).1
    grind
  have hnone : b.ports.lookup ⟨b.nextId + 1⟩ = none := hb.lookup_none hnew
  simp [registered, List.lookup_append, hnone]

theorem registered_old {entry : Bus.Port} (h : b.ports.lookup port = some entry) :
    (e.registered b name).ports.lookup port = some entry := by
  simp [registered, List.lookup_append, h]

theorem registered_listens {handler : η} (h : e.handler = some handler) :
    (e.registered b name).handlers.lookup ⟨b.nextId⟩ = some handler := by
  have hnone : (b.handlers.filter (·.1 ≠ ⟨b.nextId⟩)).lookup ⟨b.nextId⟩ = none := by
    rw [List.lookup_eq_none_iff]
    intro p hp
    have hne := of_decide_eq_true (List.mem_filter.mp hp).2
    rw [bne_iff_ne]
    exact fun heq => hne heq.symm
  simp only [registered, h, List.lookup_append, hnone]
  simp

theorem registered_numbered (hb : b.Numbered) (hspare : b.nextId.toNat + 2 < UInt32.size) :
    (e.registered b name).Numbered := by
  obtain ⟨hone, hnat⟩ := lt_succ hspare (by decide)
  have hspare' : (b.nextId + 1).toNat + 1 < UInt32.size := by
    rw [hnat]
    omega
  have htwo := (lt_succ hspare' (by decide)).1
  have hold : ∀ m, m < b.nextId → m < b.nextId + 1 + 1 := by
    intro m hm
    grind
  refine ⟨hold 0 hb.pos, fun p hp => ?_, fun s hs =>
      ⟨hold _ (hb.subscriptions s hs).1, hold _ (hb.subscriptions s hs).2⟩,
    fun batch hm => hold _ (hb.queue batch hm), fun q hq => hold _ (hb.outbox q hq)⟩
  rcases List.mem_append.mp hp with hp | hp
  · exact hold _ (hb.ports p hp)
  · rw [List.mem_singleton.mp hp]
    exact htwo

/-- An endpoint with its two handles. -/
def placed (e : Endpoint η) (b : Bus η) (peer : Option Address) : Endpoint η :=
  { e with link := .portOpen ⟨b.nextId⟩ ⟨b.nextId + 1⟩ peer, handler := none }

/-- A fresh endpoint that registers a port takes two handles, one for its client and one for the
port. -/
theorem register_new (hlink : e.link = .disconnected) (havailable : b.available = true)
    (hcheck : e.checkName (Bus.driver settings) name = .ok ()) :
    e.register (Bus.driver settings) b name kind =
      { result := .ok ⟨b.nextId + 1⟩, subject := e.placed b none,
        driver := e.registered b name } := by
  have hopen : e.ensureClient (Bus.driver settings) b =
      { result := .ok ⟨b.nextId⟩
        subject := { e with link := .clientOpen ⟨b.nextId⟩, handler := none }
        driver := { e.registered b name with nextId := b.nextId + 1, ports := b.ports } } := by
    cases hhandler : e.handler with
    | none =>
      simp [ensureClient, hlink, Link.client?, Bus.driver, Bus.openClient, havailable, hhandler,
        registered, Bus.takeId]
    | some handler =>
      simp [ensureClient, hlink, Link.client?, Bus.driver, Bus.openClient, havailable, hhandler,
        registered, Bus.takeId, Bus.setHandler, Bus.hasClient, List.lookup_append]
  rw [register, hcheck]
  dsimp only
  rw [hopen]
  simp [Outcome.andThen, ensurePort, Link.port?, placed, Bus.driver, Bus.registerPort,
    Bus.hasClient, List.lookup_append, registered, Bus.addPort, Bus.takeId]

/-- No client is let in while the bus is offline. -/
theorem register_offline (hlink : e.link = .disconnected) (havailable : b.available = false)
    (hcheck : e.checkName (Bus.driver settings) name = .ok ()) :
    e.register (Bus.driver settings) b name kind =
      { result := .error .driverUnavailable, subject := e, driver := b,
        warnings := [.driverNotRunning] } := by
  rw [register, hcheck]
  simp [Outcome.andThen, ensureClient, hlink, Link.client?, Bus.driver, Bus.openClient,
    havailable]

theorem register_ok (hlink : e.link = .disconnected)
    (h : (e.register (Bus.driver settings) b name kind).result = .ok port) :
    e.register (Bus.driver settings) b name kind =
      { result := .ok ⟨b.nextId + 1⟩, subject := e.placed b none,
        driver := e.registered b name } := by
  cases hcheck : e.checkName (Bus.driver settings) name with
  | error err =>
    rw [register, hcheck] at h
    cases h
  | ok u =>
    cases havailable : b.available with
    | false =>
      rw [register_offline hlink havailable hcheck] at h
      cases h
    | true => exact register_new hlink havailable hcheck

/-- A port that was connected has a peer of the other direction, and the two are subscribed. -/
theorem connectPort_ok {client : ClientId} {own : Bus.Port} {index : Nat}
    (hlink : e.link = .portOpen client port none) (hown : b.ports.lookup port = some own)
    (h : (e.connectPort (Bus.driver settings) b index).result = .ok ()) :
    ∃ peer other, Bus.portAt? peer = some other ∧
      (e.connectPort (Bus.driver settings) b index).subject =
        { e with link := .portOpen client port (some peer) } ∧
      (Bus.subscription own.direction port other ∉ b.subscriptions →
        (e.connectPort (Bus.driver settings) b index).driver =
          { b with
            subscriptions := b.subscriptions ++ [Bus.subscription own.direction port other] }) := by
  rw [connectPort, hlink] at h ⊢
  simp only [Bus.driver] at h ⊢
  cases hpeer : (b.enumerate e.direction)[index]? with
  | none => simp [hpeer] at h
  | some peer =>
    simp only [hpeer] at h ⊢
    cases hat : Bus.portAt? peer.address with
    | none => simp [Bus.connect, hat] at h
    | some other =>
      by_cases howner : own.owner = client
      · cases hother : b.ports.lookup other with
        | none => simp [Bus.connect, hat, Bus.ownPort, hown, howner, hother] at h
        | some entry =>
          by_cases hdirection : entry.direction = own.direction.peer
          · refine ⟨peer.address, other, hat, ?_, fun hnew => ?_⟩
            · simp [Bus.connect, hat, Bus.ownPort, hown, howner, hother, hdirection]
            · simp [Bus.connect, hat, Bus.ownPort, hown, howner, hother, hdirection, hnew]
          · simp [Bus.connect, hat, Bus.ownPort, hown, howner, hother, hdirection] at h
      · simp [Bus.connect, hat, Bus.ownPort, hown, howner] at h

/-- The endpoint connects the port that it registered. -/
theorem connect_placed {index : Nat} (hb : b.Numbered)
    (hspare : b.nextId.toNat + 2 < UInt32.size)
    (h : ((e.placed b none).connectPort (Bus.driver settings) (e.registered b name) index).result =
      .ok ()) :
    let done := (e.placed b none).connectPort (Bus.driver settings) (e.registered b name) index
    ∃ peer other, Bus.portAt? peer = some other ∧ done.subject = e.placed b (some peer) ∧
      (Bus.subscription e.direction ⟨b.nextId + 1⟩ other ∉ b.subscriptions →
        done.driver = { e.registered b name with
          subscriptions :=
            b.subscriptions ++ [Bus.subscription e.direction ⟨b.nextId + 1⟩ other] }) :=
  connectPort_ok rfl (registered_lookup hb hspare) h

theorem new_handles {n : UInt32} (h : n.toNat + 4 < UInt32.size) :
    n < n + 1 ∧ n < n + 1 + 1 ∧ n < n + 1 + 1 + 1 ∧ (n + 1 + 1).toNat + 2 < UInt32.size := by
  obtain ⟨h1, e1⟩ := lt_succ h (by decide)
  have hspare1 : (n + 1).toNat + 3 < UInt32.size := by omega
  obtain ⟨h2, e2⟩ := lt_succ hspare1 (by decide)
  have hspare2 : (n + 1 + 1).toNat + 2 < UInt32.size := by omega
  obtain ⟨h3, -⟩ := lt_succ hspare2 (by decide)
  exact ⟨h1, by grind, by grind, hspare2⟩

theorem client_ne_system {n : UInt32} (h : 0 < n) : (⟨n⟩ : ClientId) ≠ Bus.system := by
  intro heq
  have hzero : n = 0 := congrArg ClientId.number heq
  rw [hzero] at h
  exact absurd h (by decide)

/-- A peer that is another endpoint's port has that port's address. -/
theorem peer_port {e' : Endpoint η} {peer : Address} {found : PortId}
    (hpeer : e.link.peer?.bind Bus.portAt? = e'.link.port?) (hlink : e.link.peer? = some peer)
    (hport : e'.link.port? = some port) (hat : Bus.portAt? peer = some found) : found = port := by
  rw [hlink, hport] at hpeer
  exact Option.some.inj (hat.symm.trans hpeer)

section Pair

variable {receiver sender : Endpoint η} {handler : η} {inName outName : String}
  {before after : Bus η}

/-- A line to an endpoint that was there before. -/
theorem carries_input_first (hb : b.Numbered) (hspare : b.nextId.toNat + 4 < UInt32.size)
    (hrun : b.dispatching = true) (hbefore : before = receiver.registered b inName)
    (hafter : after = { sender.registered before outName with
      subscriptions := before.subscriptions ++ [(⟨before.nextId + 1⟩, ⟨b.nextId + 1⟩)] })
    (hreceiver : receiver.handler = some handler) (hsilent : sender.handler = none)
    (hdirection : sender.direction = .output) :
    let l : Bus.Line := ⟨⟨before.nextId⟩, ⟨before.nextId + 1⟩, ⟨b.nextId⟩, ⟨b.nextId + 1⟩⟩
    after.Carries l handler ∧ after.inFlight l = [] := by
  intro l
  subst hbefore hafter
  obtain ⟨hlt1, -, hlt3, hspare'⟩ := new_handles hspare
  have hbefore : (receiver.registered b inName).Numbered := registered_numbered hb (by omega)
  have hlistens : (receiver.registered b inName).handlers.lookup l.receiver = some handler :=
    registered_listens hreceiver
  have hsource : (sender.registered (receiver.registered b inName) outName).ports.lookup l.source =
      some ⟨l.sender, outName, sender.direction⟩ := registered_lookup hbefore hspare'
  have htarget : (sender.registered (receiver.registered b inName) outName).ports.lookup l.target =
      some ⟨l.receiver, inName, receiver.direction⟩ :=
    registered_old (registered_lookup hb (by omega))
  have hsourceNew : b.nextId ≤ l.source.number := UInt32.le_of_lt hlt3
  have htargetNew : b.nextId ≤ l.target.number := UInt32.le_of_lt hlt1
  refine hb.carries hsource rfl hdirection htarget rfl hsourceNew htargetNew
    (client_ne_system hb.pos) ?_ rfl rfl rfl hrun
  simp only [registered, hsilent]
  exact hlistens

/-- A line from an endpoint that was there before. -/
theorem carries_output_first (hb : b.Numbered) (hspare : b.nextId.toNat + 4 < UInt32.size)
    (hrun : b.dispatching = true) (hbefore : before = sender.registered b outName)
    (hafter : after = { receiver.registered before inName with
      subscriptions := before.subscriptions ++ [(⟨b.nextId + 1⟩, ⟨before.nextId + 1⟩)] })
    (hreceiver : receiver.handler = some handler) (hdirection : sender.direction = .output) :
    let l : Bus.Line := ⟨⟨b.nextId⟩, ⟨b.nextId + 1⟩, ⟨before.nextId⟩, ⟨before.nextId + 1⟩⟩
    after.Carries l handler ∧ after.inFlight l = [] := by
  intro l
  subst hbefore hafter
  obtain ⟨hlt1, -, hlt3, hspare'⟩ := new_handles hspare
  have hbefore : (sender.registered b outName).Numbered := registered_numbered hb (by omega)
  have hlistens : (receiver.registered (sender.registered b outName) inName).handlers.lookup
      l.receiver = some handler := registered_listens hreceiver
  have hsource : (receiver.registered (sender.registered b outName) inName).ports.lookup l.source =
      some ⟨l.sender, outName, sender.direction⟩ := registered_old (registered_lookup hb (by omega))
  have htarget : (receiver.registered (sender.registered b outName) inName).ports.lookup l.target =
      some ⟨l.receiver, inName, receiver.direction⟩ := registered_lookup hbefore hspare'
  have hsourceNew : b.nextId ≤ l.source.number := UInt32.le_of_lt hlt1
  have htargetNew : b.nextId ≤ l.target.number := UInt32.le_of_lt hlt3
  exact hb.carries hsource rfl hdirection htarget rfl hsourceNew htargetNew
    (client_ne_system hbefore.pos) hlistens rfl rfl rfl hrun

end Pair

end Endpoint

namespace Input

variable {η : Type} {b : Bus η} {settings : Bus.Settings} {mode : Mode} {handler : η}
  {si : Settings} {name : String} {index : Nat}

/-- A fresh input that publishes a port. -/
theorem openVirtualPort_ok
    (h : ((ofSettings si mode handler).openVirtualPort (Bus.driver settings) b name).result =
      .ok ()) :
    let i := ofSettings si mode handler
    i.openVirtualPort (Bus.driver settings) b name =
      { result := .ok (),
        subject := (i.withEndpoint (i.endpoint.placed b none)).activate ⟨b.nextId + 1⟩,
        driver := i.endpoint.registered b name } := by
  intro i
  obtain ⟨port, hport, -⟩ := Outcome.andThen_ok h
  have hregister := Endpoint.register_ok rfl hport
  rw [openVirtualPort, hregister]
  rfl

/-- A fresh input that is connected to a source. -/
theorem openPort_ok (hb : b.Numbered) (hspare : b.nextId.toNat + 2 < UInt32.size)
    (h : ((ofSettings si mode handler).openPort (Bus.driver settings) b index name).result =
      .ok ()) :
    let i := ofSettings si mode handler
    let o := i.openPort (Bus.driver settings) b index name
    ∃ peer source, Bus.portAt? peer = some source ∧
      o.subject = (i.activate ⟨b.nextId + 1⟩).withEndpoint (i.endpoint.placed b (some peer)) ∧
      ((source, ⟨b.nextId + 1⟩) ∉ b.subscriptions →
        o.driver = { i.endpoint.registered b name with
          subscriptions := b.subscriptions ++ [(source, ⟨b.nextId + 1⟩)] }) := by
  intro i o
  have hdone : o.result = .ok () := h
  have hfree : ¬ i.endpoint.isConnected = true := Bool.false_ne_true
  rw [openPort, if_neg hfree] at h
  obtain ⟨port, hport, -⟩ := Outcome.andThen_ok h
  have hregister := Endpoint.register_ok rfl hport
  have hopen : o = ((i.endpoint.placed b none).connectPort (Bus.driver settings)
      (i.endpoint.registered b name) index).within (i.activate ⟨b.nextId + 1⟩).withEndpoint := by
    rw [show o = i.openPort (Bus.driver settings) b index name from rfl, openPort, if_neg hfree,
      hregister]
    rfl
  rw [hopen] at hdone ⊢
  obtain ⟨peer, source, hat, hsubject, hdriver⟩ := Endpoint.connect_placed hb hspare hdone
  exact ⟨peer, source, hat, congrArg (i.activate _).withEndpoint hsubject, hdriver⟩

end Input

namespace Output

variable {η : Type} {b : Bus η} {settings : Bus.Settings} {so : Settings} {name : String}
  {index : Nat}

/-- A fresh output that publishes a port. -/
theorem openVirtualPort_ok
    (h : ((ofSettings so : Output η).openVirtualPort (Bus.driver settings) b name).result =
      .ok ()) :
    let o : Output η := ofSettings so
    o.openVirtualPort (Bus.driver settings) b name =
      { result := .ok (), subject := o.withEndpoint (o.endpoint.placed b none),
        driver := o.endpoint.registered b name } := by
  intro o
  have hendpoint : (o.endpoint.openVirtualPort (Bus.driver settings) b name).result = .ok () := h
  obtain ⟨port, hport, -⟩ := Outcome.andThen_ok hendpoint
  have hregister := Endpoint.register_ok rfl hport
  rw [openVirtualPort, Endpoint.openVirtualPort, hregister]
  rfl

/-- A fresh output that is connected to a destination. -/
theorem openPort_ok (hb : b.Numbered) (hspare : b.nextId.toNat + 2 < UInt32.size)
    (h : ((ofSettings so : Output η).openPort (Bus.driver settings) b index name).result =
      .ok ()) :
    let o : Output η := ofSettings so
    let done := o.openPort (Bus.driver settings) b index name
    ∃ peer target, Bus.portAt? peer = some target ∧
      done.subject = o.withEndpoint (o.endpoint.placed b (some peer)) ∧
      ((⟨b.nextId + 1⟩, target) ∉ b.subscriptions →
        done.driver = { o.endpoint.registered b name with
          subscriptions := b.subscriptions ++ [(⟨b.nextId + 1⟩, target)] }) := by
  intro o done
  have hdone : done.result = .ok () := h
  have hendpoint : (o.endpoint.openPort (Bus.driver settings) b index name).result = .ok () := h
  obtain ⟨port, hport, -⟩ := Outcome.andThen_ok hendpoint
  have hregister := Endpoint.register_ok rfl hport
  have hopen : done = ((o.endpoint.placed b none).connectPort (Bus.driver settings)
      (o.endpoint.registered b name) index).within o.withEndpoint := by
    rw [show done = o.openPort (Bus.driver settings) b index name from rfl, openPort,
      Endpoint.openPort, hregister]
    rfl
  rw [hopen] at hdone ⊢
  obtain ⟨peer, target, hat, hsubject, hdriver⟩ := Endpoint.connect_placed hb hspare hdone
  exact ⟨peer, target, hat, congrArg o.withEndpoint hsubject, hdriver⟩

end Output

namespace Patch

variable {η : Type}

/-- A fresh output and a fresh input are connected to one another by a line, and nothing is on its
way to the input. -/
structure Joined (w : Patch η) (mode : Input.Mode) (o : Output η) (l : Bus.Line) : Prop where
  carries : w.bus.Carries l w.handler
  quiet : w.bus.inFlight l = []
  output : ∃ peer, o.endpoint.link = .portOpen l.sender l.source peer
  encoder : o.encoder.mode = {}
  gate : w.input.gate.active = some l.target
  assembler : w.input.assembler =
    { filter := w.input.settings.filter, sink := mode.sink w.input.settings }
  unread : w.received = [] ∧ w.filled = false

theorem Joined.flows {w : Patch η} {mode : Input.Mode} {o : Output η} {l : Bus.Line}
    (h : w.Joined mode o l) :
    w.Flows w.input.settings.filter (mode.sink w.input.settings) l [] := by
  obtain ⟨hreceived, hfilled⟩ := h.unread
  have hnone : (mode.sink w.input.settings).contents = [] := by
    cases mode <;> rfl
  refine ⟨h.carries, [], h.quiet, h.gate, ?_, .inr rfl, ?_, fun _ => ?_⟩
  · rw [h.assembler]
    exact .refl _
  · rintro ⟨handed, hs⟩
    exact ⟨hfilled, handed, by rw [h.assembler, hs]⟩
  · rw [delivered, hreceived, h.assembler, hnone]
    rfl

variable {b : Bus η} {settings : Bus.Settings} {mode : Input.Mode} {handler : η}
  {si : Input.Settings} {so : Output.Settings} {inName outName : String} {index : Nat}

/-- **Joined at a virtual input.** A fresh input publishes a port and a fresh output connects to
it. -/
theorem joined_of_virtual_input (hb : b.Numbered) (hspare : b.nextId.toNat + 4 < UInt32.size)
    (hrun : b.dispatching = true) :
    let i := (Input.ofSettings si mode handler).openVirtualPort (Bus.driver settings) b inName
    let o := (Output.ofSettings so).openPort (Bus.driver settings) i.driver index outName
    i.result = .ok () → o.result = .ok () →
      o.subject.endpoint.link.peer?.bind Bus.portAt? = i.subject.endpoint.link.port? →
      ∀ clock schedule, ∃ l,
        Joined { bus := o.driver, input := i.subject, handler, clock, schedule } mode o.subject
          l := by
  intro i o hi ho hpeer clock schedule
  have hopen : i = _ := Input.openVirtualPort_ok hi
  obtain ⟨-, -, -, hspare'⟩ := Endpoint.new_handles hspare
  have hbefore : Bus.Numbered i.driver := by
    rw [hopen]
    exact Endpoint.registered_numbered hb (by omega)
  have hnext : i.driver.nextId = b.nextId + 1 + 1 := by
    rw [hopen]
    rfl
  rw [← hnext] at hspare'
  obtain ⟨peer, target, hat, hsubject, hdriver⟩ := Output.openPort_ok hbefore hspare' ho
  have htarget : target = ⟨b.nextId + 1⟩ := by
    have hlink : o.subject.endpoint.link.peer? = some peer := by
      rw [hsubject]
      rfl
    have hport : i.subject.endpoint.link.port? = some ⟨b.nextId + 1⟩ := by
      rw [hopen]
      rfl
    exact Endpoint.peer_port hpeer hlink hport hat
  subst htarget
  have hafter := hdriver (hbefore.unsubscribed
    (.inl (UInt32.le_of_lt (Endpoint.lt_succ hspare' (by decide)).1)))
  have hbus : i.driver = (Input.ofSettings si mode handler).endpoint.registered b inName := by
    rw [hopen]
  obtain ⟨hcarries, hquiet⟩ :=
    Endpoint.carries_input_first hb hspare hrun hbus hafter rfl rfl rfl
  refine ⟨_, hcarries, hquiet, ⟨some peer, ?_⟩, ?_, ?_, ?_, rfl, rfl⟩
  · rw [hsubject]
    rfl
  · rw [hsubject]
    rfl
  · rw [hopen]
    rfl
  · rw [hopen]
    rfl

/-- **Joined at a virtual output.** A fresh output publishes a port and a fresh input connects to
it. -/
theorem joined_of_virtual_output (hb : b.Numbered) (hspare : b.nextId.toNat + 4 < UInt32.size)
    (hrun : b.dispatching = true) :
    let o := (Output.ofSettings so).openVirtualPort (Bus.driver settings) b outName
    let i := (Input.ofSettings si mode handler).openPort (Bus.driver settings) o.driver index inName
    o.result = .ok () → i.result = .ok () →
      i.subject.endpoint.link.peer?.bind Bus.portAt? = o.subject.endpoint.link.port? →
      ∀ clock schedule, ∃ l,
        Joined { bus := i.driver, input := i.subject, handler, clock, schedule } mode o.subject
          l := by
  intro o i ho hi hpeer clock schedule
  have hopen : o = _ := Output.openVirtualPort_ok ho
  obtain ⟨-, -, -, hspare'⟩ := Endpoint.new_handles hspare
  have hbefore : Bus.Numbered o.driver := by
    rw [hopen]
    exact Endpoint.registered_numbered hb (by omega)
  have hnext : o.driver.nextId = b.nextId + 1 + 1 := by
    rw [hopen]
    rfl
  rw [← hnext] at hspare'
  obtain ⟨peer, source, hat, hsubject, hdriver⟩ := Input.openPort_ok hbefore hspare' hi
  have hsource : source = ⟨b.nextId + 1⟩ := by
    have hlink : i.subject.endpoint.link.peer? = some peer := by
      rw [hsubject]
      rfl
    have hport : o.subject.endpoint.link.port? = some ⟨b.nextId + 1⟩ := by
      rw [hopen]
      rfl
    exact Endpoint.peer_port hpeer hlink hport hat
  subst hsource
  have hafter := hdriver (hbefore.unsubscribed
    (.inr (UInt32.le_of_lt (Endpoint.lt_succ hspare' (by decide)).1)))
  have hbus : o.driver = (Output.ofSettings so).endpoint.registered b outName := by
    rw [hopen]
  obtain ⟨hcarries, hquiet⟩ :=
    Endpoint.carries_output_first hb hspare hrun hbus hafter rfl rfl
  refine ⟨_, hcarries, hquiet, ⟨none, ?_⟩, ?_, ?_, ?_, rfl, rfl⟩
  · rw [hopen]
    rfl
  · rw [hopen]
    rfl
  · rw [hsubject]
    rfl
  · rw [hsubject]
    rfl

end Patch

end PatchBay
