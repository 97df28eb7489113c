import PatchBay.Proofs.Calls
import PatchBay.Proofs.Gating

/-!
# What an endpoint has on the bus

The link of an endpoint says that its client is open, that its port is registered, and that it is
joined to a peer. On the bus these are three tables, which other clients change as well. What one
client does leaves to the others their clients and ports, and leaves every subscription whose two
ports are still there. Handles are not given out twice, so that a peer which is gone stays gone.
-/

namespace PatchBay

namespace Bus

variable {η : Type} {b mid after : Bus η} {actor client : ClientId} {port : PortId}
  {direction : Direction} {peer : Address}

/-! ## One client acts -/

/-- What a step of one client leaves in force. -/
structure Upholds (b : Bus η) (actor : ClientId) (after : Bus η) : Prop where
  consistent : after.Consistent
  precedes : b.Precedes after
  client : ∀ c, c ≠ actor → b.hasClient c → after.hasClient c
  port : ∀ p owner direction, owner ≠ actor → b.role? p = some (owner, direction) →
    after.role? p = some (owner, direction)
  subscription : ∀ s ∈ b.subscriptions,
    s ∈ after.subscriptions ∨ after.role? s.1 = none ∨ after.role? s.2 = none

theorem Upholds.refl (h : b.Consistent) (actor : ClientId) : b.Upholds actor b :=
  ⟨h, .refl b, fun _ _ hc => hc, fun _ _ _ _ hp => hp, fun _ hs => .inl hs⟩

theorem Upholds.trans (hb : b.Consistent) (h : b.Upholds actor mid)
    (h' : mid.Upholds actor after) : b.Upholds actor after := by
  refine ⟨h'.consistent, h.precedes.trans h'.precedes, fun c hne hc => ?_,
    fun p owner direction hne hp => ?_, fun s hs => ?_⟩
  · exact h'.client c hne (h.client c hne hc)
  · exact h'.port p owner direction hne (h.port p owner direction hne hp)
  · obtain ⟨_, hsource⟩ := hb.source_output s hs
    obtain ⟨_, htarget⟩ := hb.target_input s hs
    have hle := h.precedes.nextId_le
    rcases h.subscription s hs with hkept | hgone | hgone
    · exact h'.subscription s hkept
    · have hbelow := UInt32.lt_of_lt_of_le (hb.port_below hsource) hle
      exact .inr (.inl (h'.precedes.role?_none hbelow hgone))
    · have hbelow := UInt32.lt_of_lt_of_le (hb.port_below htarget) hle
      exact .inr (.inr (h'.precedes.role?_none hbelow hgone))

/-- Nothing is lost. -/
theorem Upholds.of_kept {given : List UInt32} (h : b.Evolves given after)
    (hclient : ∀ c, b.hasClient c → after.hasClient c)
    (hport : ∀ p r, b.role? p = some r → after.role? p = some r)
    (hsubscriptions : b.subscriptions ⊆ after.subscriptions) (actor : ClientId) :
    b.Upholds actor after :=
  ⟨h.consistent, h.precedes, fun c _ hc => hclient c hc, fun p _ _ _ hr => hport p _ hr,
    fun _ hs => .inl (hsubscriptions hs)⟩

/-- The three tables stay as they are. -/
theorem Upholds.of_same (h : b.Evolves [] after) (hclients : after.clients = b.clients)
    (hports : after.ports = b.ports) (hsubscriptions : after.subscriptions = b.subscriptions)
    (actor : ClientId) : b.Upholds actor after := by
  refine .of_kept h (fun c hc => ?_) (fun p r hr => ?_) ?_ actor
  · rwa [hasClient, hclients]
  · rwa [role?, hports]
  · rw [hsubscriptions]
    exact List.Subset.refl _

theorem Consistent.upholds_openClient (h : b.Consistent)
    (hspare : b.available = true → b.nextId.toNat + 1 < UInt32.size) (name : String)
    (actor : ClientId) : b.Upholds actor (b.openClient name).2 := by
  unfold Bus.openClient
  split
  · rename_i havailable
    refine .of_kept (h.openClient (hspare havailable) name) (fun c hc => ?_) (fun _ _ hr => hr)
      (List.Subset.refl _) actor
    rw [hasClient_iff] at hc ⊢
    rw [List.map_append]
    exact List.mem_append_left _ hc
  · exact .refl h actor

theorem Consistent.upholds_setHandler (h : b.Consistent) (client : ClientId) (handler : η)
    (actor : ClientId) : b.Upholds actor (b.setHandler client handler).2 := by
  have hevolves := h.setHandler client handler
  unfold Bus.setHandler at hevolves ⊢
  split
  · rename_i hopen
    rw [if_pos hopen] at hevolves
    exact .of_same hevolves rfl rfl rfl actor
  · exact .refl h actor

theorem Consistent.upholds_addPort (h : b.Consistent)
    (hspare : b.nextId.toNat + 1 < UInt32.size) (entry : Port)
    (howner : b.hasClient entry.owner) (actor : ClientId) :
    b.Upholds actor (b.addPort entry).2 :=
  .of_kept (h.addPort hspare howner) (fun _ hc => hc) (fun _ _ hr => role?_addPort hr)
    (List.Subset.refl _) actor

theorem Consistent.upholds_renamePort (h : b.Consistent) (client : ClientId) (port : PortId)
    (name : String) (actor : ClientId) : b.Upholds actor (b.renamePort client port name).2 := by
  have hrole := b.role?_renamePort client port name
  have hrest : (b.renamePort client port name).2.clients = b.clients ∧
      (b.renamePort client port name).2.subscriptions = b.subscriptions := by
    rcases b.renamePort_cases client port name with hsame | ⟨-, hnamed⟩
    · rw [hsame]
      exact ⟨rfl, rfl⟩
    · rw [hnamed]
      exact ⟨rfl, rfl⟩
  refine .of_kept (h.renamePort client port name) (fun c hc => ?_) (fun p r hr => ?_) ?_ actor
  · rwa [hasClient, hrest.1]
  · rwa [hrole]
  · rw [hrest.2]
    exact List.Subset.refl _

theorem Consistent.upholds_connect (h : b.Consistent) (client : ClientId) (port : PortId)
    (peer : Address) (actor : ClientId) : b.Upholds actor (b.connect client port peer).2 := by
  have hevolves := h.connect client port peer
  rcases b.connect_cases client port peer with hsame | ⟨s, -, -, -, -, hjoined⟩
  · rw [hsame]
    exact .refl h actor
  · rw [hjoined] at hevolves ⊢
    exact .of_kept hevolves (fun _ hc => hc) (fun _ _ hr => hr) (List.subset_append_left _ _) actor

theorem Consistent.upholds_transmit (h : b.Consistent) (client : ClientId) (port : PortId)
    (bytes : Bytes) (e : Encoder) (actor : ClientId) :
    b.Upholds actor (b.transmit client port bytes e).2.2 := by
  have hevolves := h.transmit client port bytes e
  rcases b.transmit_cases client port bytes e with ⟨err, after, heq⟩ | ⟨n, after, heq⟩
  · rw [heq]
    exact .refl h actor
  · rw [heq] at hevolves ⊢
    exact .of_same hevolves rfl rfl rfl actor

theorem Consistent.upholds_drain (h : b.Consistent) (client actor : ClientId) :
    b.Upholds actor (b.drain client).2 := by
  have hevolves := h.drain client
  obtain ⟨queue, heq⟩ := b.drain_rest client
  rw [heq] at hevolves ⊢
  exact .of_same hevolves rfl rfl rfl actor

theorem Consistent.upholds_inject (h : b.Consistent) (source : Address) (events : List Bytes)
    (actor : ClientId) : b.Upholds actor (b.inject source events).2 := by
  have hevolves := h.inject source events
  obtain ⟨queue, heq⟩ := b.inject_rest source events
  rw [heq] at hevolves ⊢
  exact .of_same hevolves rfl rfl rfl actor

theorem Consistent.upholds_dispatch (h : b.Consistent) (actor : ClientId) :
    b.Upholds actor b.dispatch.2 := by
  have hevolves := h.dispatch
  unfold Bus.dispatch at hevolves ⊢
  split
  · exact .refl h actor
  · rename_i batch rest hqueue
    rw [hqueue] at hevolves
    obtain ⟨events, hafter, -⟩ := deliver_captured { b with queue := rest } batch
    dsimp only at hevolves
    rw [hafter] at hevolves ⊢
    exact .of_same hevolves rfl rfl rfl actor

/-- Ports of the acting client are removed, and with them their subscriptions. -/
theorem Consistent.upholds_removePorts (h : b.Consistent) {gone : List PortId}
    (howned : ∀ p ∈ gone, b.owns actor p = true) :
    b.Upholds actor (gone.foldl Bus.removePort b) := by
  have hevolves := h.removePorts gone
  have hrole : ∀ p, (gone.foldl Bus.removePort b).role? p =
      if p ∈ gone then none else b.role? p := by
    intro p
    rw [removePorts_eq, role?, lookup_filter b.ports fun k => decide (k ∉ gone)]
    by_cases hp : p ∈ gone
    · simp [hp]
    · simp [hp, role?]
  refine ⟨hevolves.consistent, hevolves.precedes, fun c _ hc => ?_,
    fun p owner direction hne hr => ?_, fun s hs => ?_⟩
  · rwa [removePorts_eq]
  · rw [hrole, if_neg, hr]
    intro hp
    obtain ⟨entry, hlook, howner⟩ := owns_iff.mp (howned p hp)
    rw [role?_eq hlook, howner] at hr
    exact hne (congrArg Prod.fst (Option.some.inj hr)).symm
  · by_cases hsource : s.1 ∈ gone
    · exact .inr (.inl (by rw [hrole, if_pos hsource]))
    by_cases htarget : s.2 ∈ gone
    · exact .inr (.inr (by rw [hrole, if_pos htarget]))
    rw [removePorts_eq]
    exact .inl (List.mem_filter.mpr ⟨hs, by simp [hsource, htarget]⟩)

theorem Consistent.upholds_unregisterPort (h : b.Consistent) (actor : ClientId) (port : PortId) :
    b.Upholds actor (b.unregisterPort actor port) := by
  unfold Bus.unregisterPort
  split
  · rename_i howns
    have howned : ∀ p ∈ [port], b.owns actor p = true := by
      intro p hp
      rwa [List.mem_singleton.mp hp]
    exact h.upholds_removePorts howned
  · exact .refl h actor

/-- Before a port is removed it makes no difference that its subscriptions are. -/
theorem unregisterPort_disconnect (b : Bus η) (client : ClientId) (port : PortId) :
    (b.disconnect client port).unregisterPort client port = b.unregisterPort client port := by
  have howns : (b.disconnect client port).owns client port = b.owns client port := by
    unfold disconnect
    split
    · rfl
    · rfl
  unfold unregisterPort
  rw [howns]
  split
  · rename_i hown
    rw [disconnect, if_pos hown]
    simp only [removePort, List.filter_filter, Bool.and_self]
  · rename_i hown
    rw [disconnect, if_neg hown]

theorem Consistent.upholds_closeClient (h : b.Consistent) (actor : ClientId) :
    b.Upholds actor (b.closeClient actor) := by
  have hevolves := h.closeClient actor
  unfold Bus.closeClient at hevolves ⊢
  split
  · exact .refl h actor
  · rename_i hsystem
    rw [if_neg hsystem] at hevolves
    have howned : ∀ p ∈ b.portsOf actor, b.owns actor p = true :=
      fun p hp => h.mem_portsOf_iff.mp hp
    have hremoved := h.upholds_removePorts howned
    refine ⟨hevolves.consistent, hevolves.precedes, fun c hne hc => ?_, hremoved.port,
      hremoved.subscription⟩
    have hold := hremoved.client c hne hc
    rw [hasClient] at hold ⊢
    rwa [lookup_filter_ne, if_neg hne]

/-! ## Clients, ports and connections that stand -/

/-- The client is open, and it is not the system client. -/
def Seats (b : Bus η) (client : ClientId) : Prop := client ≠ system ∧ b.hasClient client = true

/-- There was a port at the address. It is gone, or it is one that the port may be connected to and
is subscribed to it. -/
def Linked (b : Bus η) (direction : Direction) (port : PortId) (peer : Address) : Prop :=
  ∃ q, portAt? peer = some q ∧ q.number < b.nextId ∧
    (b.role? q = none ∨ (∃ owner, b.role? q = some (owner, direction.peer)) ∧
      subscription direction port q ∈ b.subscriptions)

/-- What a link says of an endpoint is so on the bus. -/
def Stands (b : Bus η) (direction : Direction) : Link → Prop
  | .disconnected => True
  | .clientOpen client => b.Seats client
  | .portOpen client port peer =>
    b.Seats client ∧ b.role? port = some (client, direction) ∧
      ∀ a, peer = some a → b.Linked direction port a

theorem Seats.upholds (h : b.Seats client) (hupholds : b.Upholds actor after)
    (hother : client ≠ actor) : after.Seats client :=
  ⟨h.1, hupholds.client client hother h.2⟩

/-- A connection stands as long as the port is there. -/
theorem Linked.upholds (h : b.Linked direction port peer) (hupholds : b.Upholds actor after)
    (hport : after.role? port = some (client, direction)) : after.Linked direction port peer := by
  obtain ⟨q, hat, hbelow, hq⟩ := h
  refine ⟨q, hat, UInt32.lt_of_lt_of_le hbelow hupholds.precedes.nextId_le, ?_⟩
  rcases hq with hgone | ⟨-, hs⟩
  · exact .inl (hupholds.precedes.role?_none hbelow hgone)
  -- a subscription goes only with one of its ends, and this end is there
  have hcases := hupholds.subscription _ hs
  cases direction with
  | input =>
    rcases hcases with hkept | hgone | hgone
    · exact .inr ⟨hupholds.consistent.source_output _ hkept, hkept⟩
    · exact .inl hgone
    · rw [subscription, hport] at hgone
      cases hgone
  | output =>
    rcases hcases with hkept | hgone | hgone
    · exact .inr ⟨hupholds.consistent.target_input _ hkept, hkept⟩
    · rw [subscription, hport] at hgone
      cases hgone
    · exact .inl hgone

/-- What another client does leaves a link as it is. -/
theorem Stands.upholds {link : Link} (h : b.Stands direction link)
    (hupholds : b.Upholds actor after) (hother : ∀ c, link.client? = some c → c ≠ actor) :
    after.Stands direction link := by
  cases link with
  | disconnected => trivial
  | clientOpen client => exact Seats.upholds h hupholds (hother client rfl)
  | portOpen client port peer =>
    obtain ⟨hseat, hrole, hlinked⟩ := h
    have hne := hother client rfl
    have hrole' := hupholds.port port client direction hne hrole
    exact ⟨hseat.upholds hupholds hne, hrole', fun a ha => (hlinked a ha).upholds hupholds hrole'⟩

theorem Stands.seats {link : Link} (h : b.Stands direction link)
    (hclient : link.client? = some client) : b.Seats client := by
  cases link with
  | disconnected => cases hclient
  | clientOpen c =>
    cases hclient
    exact h
  | portOpen c port peer =>
    cases hclient
    exact h.1

/-- What everybody may do leaves every link as it is. -/
theorem Stands.upholds_system {link : Link} (h : b.Stands direction link)
    (hupholds : b.Upholds system after) : after.Stands direction link :=
  h.upholds hupholds fun _ hclient => (h.seats hclient).1

/-! ## Opening, registering and connecting -/

theorem Consistent.next_ne_system (h : b.Consistent) : (⟨b.nextId⟩ : ClientId) ≠ system := by
  intro heq
  have hmem : system.number ∈ b.handles :=
    List.mem_append_left _ (List.mem_map.mpr
      ((List.mem_map.mp (hasClient_iff.mp h.system_open)).imp fun _ hc => ⟨hc.1, by rw [hc.2]⟩))
  have hbelow := h.handles_below _ hmem
  rw [← heq] at hbelow
  exact UInt32.lt_irrefl _ hbelow

theorem Consistent.no_next (h : b.Consistent) : b.hasClient ⟨b.nextId⟩ = false := by
  rw [Bool.eq_false_iff]
  intro hopen
  obtain ⟨c, hc, heq⟩ := List.mem_map.mp (hasClient_iff.mp hopen)
  have hbelow := h.handles_below _ (List.mem_append_left _ (List.mem_map_of_mem hc))
  rw [heq] at hbelow
  exact UInt32.lt_irrefl _ hbelow

theorem role?_addPort_self (h : b.Consistent) (entry : Port) :
    (b.addPort entry).2.role? ⟨b.nextId⟩ = some (entry.owner, entry.direction) := by
  have hnone : b.ports.lookup ⟨b.nextId⟩ = none := by
    rw [List.lookup_eq_none_iff]
    intro p hp
    have hbelow := h.handles_below _ (List.mem_append_right _ (List.mem_map_of_mem hp))
    rw [bne_iff_ne]
    intro heq
    rw [← heq] at hbelow
    exact UInt32.lt_irrefl _ hbelow
  simp [role?, addPort, takeId, List.lookup_append, hnone]

/-- A call that connects has found both ports, and they have different directions. -/
theorem connect_ok (hok : (b.connect client port peer).1 = .ok ()) :
    ∃ q own other, portAt? peer = some q ∧ b.ownPort client port = .ok own ∧
      b.ports.lookup q = some other ∧ other.direction = own.direction.peer := by
  unfold Bus.connect at hok
  split at hok
  · cases hok
  rename_i q hat
  split at hok
  · cases hok
  rename_i own hown
  split at hok
  · cases hok
  rename_i other hother
  split at hok
  · cases hok
  rename_i hdirection
  exact ⟨q, own, other, hat, hown, hother, of_not_not hdirection⟩

/-- A port that was connected is linked to its peer. -/
theorem Consistent.connect_linked (h : b.Consistent) {owner : ClientId}
    (hrole : b.role? port = some (owner, direction))
    (hok : (b.connect client port peer).1 = .ok ()) :
    (b.connect client port peer).2.Linked direction port peer := by
  obtain ⟨q, own, other, hat, hown, hother, hpeer⟩ := connect_ok hok
  have hdirection : own.direction = direction := by
    have hrole' := role?_eq (lookup_of_ownPort hown).1
    rw [hrole] at hrole'
    exact (congrArg Prod.snd (Option.some.inj hrole')).symm
  have hq := role?_eq hother
  rw [hpeer, hdirection] at hq
  have heq : b.connect client port peer =
      (.ok (), if subscription direction port q ∈ b.subscriptions then b
        else { b with subscriptions := b.subscriptions ++ [subscription direction port q] }) := by
    simp [Bus.connect, hat, hown, hother, hpeer, hdirection]
  have hbelow := h.port_below hq
  rw [heq]
  dsimp only
  split
  · rename_i hthere
    exact ⟨q, hat, hbelow, .inr ⟨⟨_, hq⟩, hthere⟩⟩
  · exact ⟨q, hat, hbelow, .inr ⟨⟨_, hq⟩, List.mem_append_right _ List.mem_cons_self⟩⟩

theorem hasClient_unregisterPort (b : Bus η) (actor client : ClientId) (port : PortId) :
    (b.unregisterPort actor port).hasClient client = b.hasClient client := by
  unfold unregisterPort
  split
  · rfl
  · rfl

end Bus

end PatchBay
