import PatchBay.Proofs.Calls

/-!
# The books of a port

A *ledger* keeps the books for one port of a bus: it notes what is transmitted to the port, and
counts it as sent when the sender drains. The books are right if what has reached the port, followed
by what is queued for it, is what was sent. Actions that move no event keep them right as long as
the port stays. Closing a client moves no event, but what it has not drained is lost, and the books
are right only if that is struck out.
-/

namespace PatchBay

namespace Bus

variable {η : Type}

/-! ## Keeping the books -/

/-- What was sent to one port. -/
structure Ledger where
  /-- What clients transmitted and have not drained since, the oldest first. -/
  waiting : List (ClientId × Bytes) := []
  /-- What was drained or injected, the oldest first. -/
  sent : List Bytes := []
deriving Repr, DecidableEq

/-- Whether what a client has not drained is struck out when the client is closed. -/
inductive Ledger.Policy where
  | keep
  | strike
deriving Repr, DecidableEq

/-- What an action on the bus `b` means for a port. Only what succeeds counts, and only where the
port is subscribed to the source at that time. The system client is not closed. -/
def Ledger.note (settings : Settings) (policy : Policy) (b : Bus η) (target : PortId) (l : Ledger) :
    Action η → Ledger
  | .transmit client source bytes encoder =>
    match (driver settings).transmit b client source bytes encoder with
    | (.ok _, encoder, _) =>
      if target ∈ b.destinations source then
        { l with waiting := l.waiting ++ [(client, encoder.event)] }
      else l
    | (.error _, _) => l
  | .drain client =>
    { waiting := l.waiting.filter (·.1 ≠ client)
      sent := l.sent ++ (l.waiting.filter (·.1 = client)).map (·.2) }
  | .inject source events =>
    match portAt? source, b.inject source events with
    | some source, (.ok (), _) =>
      if target ∈ b.destinations source then { l with sent := l.sent ++ events } else l
    | _, _ => l
  | .closeClient client =>
    if policy = .strike ∧ client ≠ system then
      { l with waiting := l.waiting.filter (·.1 ≠ client) }
    else l
  | _ => l

/-- The ledger of a port after some actions in a row. -/
def ledger (settings : Settings) (policy : Ledger.Policy) (b : Bus η) (target : PortId)
    (l : Ledger) : List (Action η) → Ledger
  | [] => l
  | action :: actions =>
    ledger settings policy (b.act settings action).2 target (l.note settings policy b target action)
      actions

/-- The batches for a port that an action hands to a handler. -/
def handover (b : Bus η) (target : PortId) : Action η → List (Delivery η)
  | .dispatch => b.dispatch.1.toList.filter (·.port = target)
  | _ => []

/-- The batches for a port that some actions in a row hand to handlers, in order. -/
def handovers (settings : Settings) (b : Bus η) (target : PortId) :
    List (Action η) → List (Delivery η)
  | [] => []
  | action :: actions =>
    b.handover target action ++ handovers settings (b.act settings action).2 target actions

/-- Whether a port is a destination to which events get through: one of the system client, whose
events are captured, or one of a client with a handler. -/
def attends (b : Bus η) (port : PortId) : Bool :=
  (b.ports.lookup port).any fun entry => entry.direction = .input &&
    (entry.owner = system || (b.handlers.lookup entry.owner).isSome)

/-- From when a port is registered, if that ever happens, it attends all along some actions. -/
def Stays (settings : Settings) (b : Bus η) (target : PortId) (actions : List (Action η)) : Prop :=
  ∀ now, now <+: actions → ∀ first, first <+: now →
    ((b.acts settings first).2.role? target).isSome → (b.acts settings now).2.attends target

variable {b after : Bus η} {source target port : PortId} {client : ClientId} {l : Ledger}
  {handed : List (Delivery η)}

theorem role?_of_attends (h : b.attends target = true) :
    ∃ owner, b.role? target = some (owner, .input) ∧
      (owner = system ∨ ∃ handler, b.handlers.lookup owner = some handler) := by
  unfold attends at h
  cases hlook : b.ports.lookup target with
  | none => simp [hlook] at h
  | some entry =>
    simp only [hlook, Option.any_some, Bool.and_eq_true, Bool.or_eq_true, decide_eq_true_eq] at h
    obtain ⟨hdirection, hheard⟩ := h
    refine ⟨entry.owner, ?_, hheard.imp id Option.isSome_iff_exists.mp⟩
    rw [role?_eq hlook, hdirection]

/-! ## Subscriptions -/

/-- No subscription is there twice, and each leads to a port that is there. -/
structure Tidy (b : Bus η) : Prop where
  nodup : b.subscriptions.Nodup
  there : ∀ s ∈ b.subscriptions, ∃ r, b.role? s.2 = some r

theorem tidy_empty : ({} : Bus η).Tidy := ⟨.nil, nofun⟩

theorem Tidy.rearranged (h : b.Tidy) (hb : b.Rearranges after) : after.Tidy := by
  cases hb with
  | keeps hroles hsubs =>
    exact ⟨hsubs.nodup h.nodup, fun s hs => (h.there s (hsubs.subset hs)).imp fun _ => hroles _ _⟩
  | joins s hnew hthere hports hsubs =>
    have hrole : after.role? = b.role? := by
      funext p
      rw [role?, hports, role?]
    refine ⟨?_, fun t ht => ?_⟩
    · rw [hsubs, List.nodup_append]
      refine ⟨h.nodup, List.nodup_singleton s, fun x hx y hy heq => hnew ?_⟩
      rwa [← List.mem_singleton.mp hy, ← heq]
    · rw [hrole]
      rw [hsubs] at ht
      rcases List.mem_append.mp ht with hold | ht
      · exact h.there t hold
      · rwa [List.mem_singleton.mp ht]
  | removes gone hroles hsubs =>
    refine ⟨?_, fun s hs => ?_⟩
    · rw [hsubs]
      exact h.nodup.filter _
    · rw [hsubs] at hs
      obtain ⟨hold, hstays⟩ := List.mem_filter.mp hs
      rw [hroles, if_neg (of_decide_eq_true hstays).2]
      exact h.there s hold

theorem Tidy.role?_of_mem (h : b.Tidy) (hmem : target ∈ b.destinations source) :
    ∃ r, b.role? target = some r := by
  obtain ⟨s, hs, rfl⟩ := List.mem_map.mp hmem
  exact h.there s (List.mem_of_mem_filter hs)

/-- A destination is subscribed to a source once or not at all. -/
theorem Tidy.filter_destinations (h : b.Tidy) (source target : PortId) :
    (b.destinations source).filter (· = target) =
      if target ∈ b.destinations source then [target] else [] := by
  have hnodup : (b.destinations source).Nodup := by
    refine List.Nodup.map_on ?_ (h.nodup.filter _)
    intro s hs t ht heq
    have hs1 := of_decide_eq_true (List.mem_filter.mp hs).2
    have ht1 := of_decide_eq_true (List.mem_filter.mp ht).2
    exact Prod.ext (hs1.trans ht1.symm) heq
  rw [List.filter_eq]
  split
  · rename_i hmem
    rw [List.count_eq_one_of_mem hnodup hmem]
    rfl
  · rename_i hnot
    rw [List.count_eq_zero_of_not_mem hnot]
    rfl

/-! ## The books are right -/

/-- The books of a port are right: what has reached it and what is queued for it was sent, and what
waits in an outbox for it is noted. All that is queued for it goes to its owner, and nothing was
ever sent to a port that is not there. -/
structure Balances (b : Bus η) (target : PortId) (l : Ledger) (handed : List (Delivery η)) :
    Prop where
  dispatching : b.dispatching = true
  sent_eq : b.received (address target) ++ handed.flatMap (·.events) ++ b.queuedFor target = l.sent
  waiting_eq : ∀ client, (l.waiting.filter (·.1 = client)).map (·.2) = b.waitingFor client target
  awaited : l.waiting ≠ [] → ∃ r, b.role? target = some r
  addressed : ∀ batch ∈ b.queue, batch.port = target →
    ∃ direction, b.role? target = some (batch.client, direction)
  captured : b.received (address target) ≠ [] → ∃ r, b.role? target = some r ∧ r.1 = system
  called : handed ≠ [] → ∃ r, b.role? target = some r ∧ r.1 ≠ system

theorem balances_empty (target : PortId) : ({} : Bus η).Balances target {} [] where
  dispatching := rfl
  sent_eq := by simp [received, portAt?_address, queuedFor]
  waiting_eq := fun client => rfl
  awaited := fun h => absurd rfl h
  addressed := nofun
  captured := fun h => absurd (by simp [received, portAt?_address]) h
  called := fun h => absurd rfl h

/-- Events were captured from a port or handed to a handler, but never both. -/
theorem Balances.one_way (h : b.Balances target l handed) :
    b.received (address target) = [] ∨ handed = [] := by
  by_cases hcaptured : b.received (address target) = []
  · exact .inl hcaptured
  refine .inr (by_contra fun hcalled => ?_)
  obtain ⟨r, hr, hsystem⟩ := h.captured hcaptured
  obtain ⟨r', hr', hother⟩ := h.called hcalled
  rw [hr] at hr'
  cases hr'
  exact hother hsystem

/-- What an action leaves alone that delivers no event to the port and takes none from it. -/
structure Spares (b : Bus η) (target : PortId) (after : Bus η) : Prop where
  dispatching : after.dispatching = b.dispatching
  queue : after.queue = b.queue
  received : after.received (address target) = b.received (address target)

/-- The port stays, and what waits for it is what the ledger then has of it. -/
theorem Balances.spared (h : b.Balances target l handed) (hs : b.Spares target after)
    (hrole : ∀ r, b.role? target = some r → after.role? target = some r)
    {waiting : List (ClientId × Bytes)} (hless : waiting.Sublist l.waiting)
    (hwaiting : ∀ client, (waiting.filter (·.1 = client)).map (·.2) =
      after.waitingFor client target) :
    after.Balances target { l with waiting } handed where
  dispatching := hs.dispatching.trans h.dispatching
  sent_eq := by rw [hs.received, queuedFor, hs.queue, ← queuedFor, h.sent_eq]
  waiting_eq := hwaiting
  awaited := fun hne => (h.awaited fun hnone => hne (List.sublist_nil.mp (hnone ▸ hless))).imp hrole
  addressed := by
    intro batch hmem hport
    rw [hs.queue] at hmem
    exact (h.addressed batch hmem hport).imp fun _ => hrole _
  captured := by
    intro hne
    rw [hs.received] at hne
    exact (h.captured hne).imp fun r hr => ⟨hrole r hr.1, hr.2⟩
  called := fun hne => (h.called hne).imp fun r hr => ⟨hrole r hr.1, hr.2⟩

/-! ## Actions that move no event for the port -/

theorem Balances.same (h : b.Balances target l handed)
    (hrole : ∀ r, b.role? target = some r → after.role? target = some r)
    (hdispatching : after.dispatching = b.dispatching) (hqueue : after.queue = b.queue)
    (houtbox : after.outbox = b.outbox) (hcaptured : after.captured = b.captured) :
    after.Balances target l handed := by
  have hspares : b.Spares target after := by
    refine ⟨hdispatching, hqueue, ?_⟩
    simp only [received, portAt?_address, hcaptured]
  refine h.spared hspares hrole (List.Sublist.refl _) fun client => ?_
  rw [h.waiting_eq, waitingFor, waitingFor, houtbox]

theorem removePorts_received {ports : List PortId} (hnot : target ∉ ports) :
    (ports.foldl removePort b).received (address target) = b.received (address target) := by
  rw [removePorts_eq]
  simp only [received, portAt?_address, List.filter_filter]
  congr 1
  refine List.filter_congr fun c _ => ?_
  by_cases hc : c.1 = target
  · simp [hc, hnot]
  · simp [hc]

/-- A port that stays is none of those that were removed. -/
theorem not_removed {ports : List PortId} (hown : ∀ p ∈ ports, ∃ r, b.role? p = some r)
    (hrole : ∀ r, b.role? target = some r → (ports.foldl removePort b).role? target = some r) :
    target ∉ ports := by
  intro hmem
  obtain ⟨r, hr⟩ := hown target hmem
  have hgone := hrole r hr
  rw [removePorts_role?, if_pos hmem] at hgone
  cases hgone

theorem Balances.unregisterPort (h : b.Balances target l handed)
    (hrole : ∀ r, b.role? target = some r → (b.unregisterPort client port).role? target = some r) :
    (b.unregisterPort client port).Balances target l handed := by
  by_cases howns : b.owns client port
  · have hremoved : b.unregisterPort client port = [port].foldl removePort b := if_pos howns
    have hown : ∀ p ∈ [port], ∃ r, b.role? p = some r := by
      intro p hp
      rw [List.mem_singleton.mp hp]
      exact role?_of_owns howns
    rw [hremoved] at hrole ⊢
    have hspares : b.Spares target ([port].foldl removePort b) :=
      ⟨rfl, rfl, removePorts_received (not_removed hown hrole)⟩
    exact h.spared hspares hrole (List.Sublist.refl _) h.waiting_eq
  · rwa [Bus.unregisterPort, if_neg howns]

theorem waiting_without (waiting : List (ClientId × Bytes)) (gone c : ClientId) :
    (waiting.filter (·.1 ≠ gone)).filter (·.1 = c) =
      if c = gone then [] else waiting.filter (·.1 = c) := by
  rw [List.filter_filter]
  split
  · rename_i hc
    subst hc
    simp
  · rename_i hc
    refine List.filter_congr fun w _ => ?_
    by_cases hw : w.1 = c <;> simp [hw, hc]

theorem waitingFor_without (houtbox : after.outbox = b.outbox.filter (·.sender ≠ client))
    (c : ClientId) :
    after.waitingFor c target = if c = client then [] else b.waitingFor c target := by
  unfold waitingFor
  rw [houtbox, List.filter_filter]
  split
  · rename_i hc
    subst hc
    simp +contextual
  · rename_i hc
    congr 1
    refine List.filter_congr fun q _ => ?_
    by_cases hq : q.sender = c <;> simp [hq, hc]

/-- What a client has waiting is gone from the ledger and from the outbox. -/
theorem Balances.waiting_dropped (h : b.Balances target l handed)
    (houtbox : after.outbox = b.outbox.filter (·.sender ≠ client)) (c : ClientId) :
    ((l.waiting.filter (·.1 ≠ client)).filter (·.1 = c)).map (·.2) = after.waitingFor c target := by
  rw [waiting_without, waitingFor_without houtbox]
  split
  · rfl
  · exact h.waiting_eq c

theorem Balances.closeClient (h : b.Balances target l handed) (settings : Settings)
    (client : ClientId)
    (hrole : ∀ r, b.role? target = some r → (b.closeClient client).role? target = some r) :
    (b.closeClient client).Balances target (l.note settings .strike b target (.closeClient client))
      handed := by
  by_cases hsystem : client = system
  · rw [Bus.closeClient, if_pos hsystem, Ledger.note, if_neg fun hc => hc.2 hsystem]
    exact h
  rw [Ledger.note, if_pos ⟨rfl, hsystem⟩]
  obtain ⟨hqueue, houtbox, hdispatching, -⟩ := removePorts_rest (b := b) (b.portsOf client)
  have hrole' : (b.closeClient client).role? target =
      ((b.portsOf client).foldl removePort b).role? target := by
    rw [Bus.closeClient, if_neg hsystem]
    rfl
  have hnot : target ∉ b.portsOf client :=
    not_removed (fun _ => role?_of_mem_portsOf) fun r hr => hrole' ▸ hrole r hr
  have hspares : b.Spares target (b.closeClient client) := by
    rw [Bus.closeClient, if_neg hsystem]
    exact ⟨hdispatching, hqueue, removePorts_received hnot⟩
  refine h.spared hspares hrole List.filter_sublist (h.waiting_dropped ?_)
  rw [Bus.closeClient, if_neg hsystem]
  exact congrArg (List.filter _) houtbox

end Bus

end PatchBay
