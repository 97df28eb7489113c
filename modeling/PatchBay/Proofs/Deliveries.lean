import Mathlib.Data.List.Infix
import PatchBay.Proofs.Ledger

/-!
# What is sent to a port reaches it once and in order

An event passes an outbox and the dispatch queue. On its way it is copied for each destination,
grouped into batches, and dropped if its destination is gone. None of this upsets the books of a
port that stays.
-/

namespace PatchBay

namespace Bus

variable {η : Type} {b after : Bus η} {source target port : PortId} {client : ClientId}
  {l : Ledger} {handed : List (Delivery η)}

/-! ## Actions that move events -/

/-- Of the copies that a client transmits to the destinations of a source, those for one port. -/
theorem Tidy.copies_waiting (h : b.Tidy) (client c : ClientId) (source : PortId)
    (event : Bytes) :
    (((b.destinations source).map fun d => (⟨client, d, event⟩ : Pending)).filter
      fun q => q.sender = c ∧ q.destination = target).map (·.event) =
      if client = c ∧ target ∈ b.destinations source then [event] else [] := by
  rw [List.filter_map, List.map_map]
  by_cases hclient : client = c
  · have hto := h.filter_destinations source target
    have hsame : ((fun q : Pending => decide (q.sender = c ∧ q.destination = target)) ∘
        fun d => ⟨client, d, event⟩) = fun d => decide (d = target) := by
      funext d
      simp [hclient]
    rw [hsame, hto]
    by_cases hmem : target ∈ b.destinations source <;> simp [hmem, hclient]
  · simp [hclient, Function.comp_def]

theorem Balances.transmit (h : b.Balances target l handed) (ht : b.Tidy) (settings : Settings)
    (policy : Ledger.Policy) (client : ClientId) (source : PortId) (bytes : Bytes)
    (encoder : Encoder) :
    ((driver settings).transmit b client source bytes encoder).2.2.Balances target
      (l.note settings policy b target (.transmit client source bytes encoder)) handed := by
  have hdriver : (driver settings).transmit b client source bytes encoder =
      b.transmit client source bytes encoder := rfl
  rcases b.transmit_cases client source bytes encoder with
    ⟨err, encoder', hout⟩ | ⟨n, encoder', hout⟩
  · rw [hdriver, Ledger.note, hdriver, hout]
    exact h
  have hwaiting : ∀ c : ClientId, waitingFor { b with
      outbox := b.outbox ++ (b.destinations source).map fun d => ⟨client, d, encoder'.event⟩ }
        c target = b.waitingFor c target ++
        if client = c ∧ target ∈ b.destinations source then [encoder'.event] else [] := by
    intro c
    rw [waitingFor, List.filter_append, List.map_append, ht.copies_waiting, waitingFor]
  rw [hdriver, Ledger.note, hdriver, hout]
  dsimp only
  split
  · rename_i hmem
    refine { h with waiting_eq := fun c => ?_, awaited := fun _ => ht.role?_of_mem hmem }
    rw [hwaiting, List.filter_append, List.map_append, h.waiting_eq c]
    by_cases hclient : client = c <;> simp [hclient, hmem]
  · rename_i hmem
    refine { h with waiting_eq := fun c => ?_ }
    rw [hwaiting, h.waiting_eq c]
    simp [hmem]

/-- What is queued for a port after batches for owners of their ports were put behind. -/
theorem Balances.queued (h : b.Balances target l handed) {batches : List Batch}
    {outbox : List Pending} {waiting : List (ClientId × Bytes)} {events : List Bytes}
    (hevents : ((batches.flatMap Batch.labelled).filter (·.1 = target)).map (·.2) = events)
    (howners : ∀ batch ∈ batches, ∃ entry, b.ports.lookup batch.port = some entry ∧
      entry.owner = batch.client)
    (hless : waiting.Sublist l.waiting)
    (hwaiting : ∀ client, (waiting.filter (·.1 = client)).map (·.2) =
      waitingFor { b with outbox } client target) :
    Balances { b with outbox, queue := b.queue ++ batches } target ⟨waiting, l.sent ++ events⟩
      handed := by
  refine ⟨h.dispatching, ?_, hwaiting, fun hne => h.awaited fun hnone => ?_,
    fun batch hmem hport => ?_, h.captured, h.called⟩
  · have hqueued : queuedFor { b with outbox, queue := b.queue ++ batches } target =
        b.queuedFor target ++ events := by
      rw [queuedFor_eq, traffic, List.flatMap_append, List.filter_append, List.map_append, hevents,
        queuedFor_eq, traffic]
    rw [hqueued, ← List.append_assoc, ← h.sent_eq]
    rfl
  · exact hne (List.sublist_nil.mp (hnone ▸ hless))
  · rcases List.mem_append.mp hmem with hold | hnew
    · exact h.addressed batch hold hport
    · obtain ⟨entry, hlook, howner⟩ := howners batch hnew
      rw [hport] at hlook
      exact ⟨entry.direction, by rw [← howner]; exact role?_eq hlook⟩

/-- What a drain adds to the queue for a port is what waited for it: nothing ever waited for a port
that is not there. -/
theorem Balances.drained (h : b.Balances target l handed) (client : ClientId) :
    ((((b.outbox.filter (·.sender = client)).map fun q => (q.destination, q.event)).filter
      fun x => (b.ports.lookup x.1).isSome).filter (·.1 = target)).map (·.2) =
      (l.waiting.filter (·.1 = client)).map (·.2) := by
  cases hlook : b.ports.lookup target with
  | some entry =>
    rw [waitingFor_eq hlook, h.waiting_eq]
  | none =>
    have hnone : l.waiting = [] := by
      by_contra hne
      obtain ⟨r, hr⟩ := h.awaited hne
      rw [role?, hlook] at hr
      cases hr
    rw [hnone, List.filter_nil, List.map_nil, List.map_eq_nil_iff, List.filter_eq_nil_iff]
    intro x hx hport
    have hthere := (List.mem_filter.mp hx).2
    rw [of_decide_eq_true hport, hlook] at hthere
    cases hthere

theorem Balances.drain (h : b.Balances target l handed) (settings : Settings)
    (policy : Ledger.Policy) (client : ClientId) :
    ((driver settings).drain b client).2.Balances target
      (l.note settings policy b target (.drain client)) handed := by
  obtain ⟨batches, hdrain, hmoved, howners⟩ := drain_ok h.dispatching client
  have hdriver : ((driver settings).drain b client).2 = _ := congrArg Prod.snd hdrain
  rw [hdriver]
  refine h.queued ?_ howners List.filter_sublist (h.waiting_dropped rfl)
  rw [hmoved, h.drained]

/-- Of copies of the same events for several ports, those for one port. -/
theorem copies_labelled (destinations : List PortId) (events : List Bytes) :
    ((destinations.flatMap fun d => events.map (d, ·)).filter (·.1 = target)).map (·.2) =
      (destinations.filter (· = target)).flatMap fun _ => events := by
  induction destinations with
  | nil => rfl
  | cons d destinations ih =>
    rw [List.flatMap_cons, List.filter_append, List.map_append, ih, List.filter_cons,
      List.filter_map, List.map_map]
    by_cases hd : d = target <;> simp [hd, Function.comp_def]

/-- An injection fails and leaves the bus as it is, or queues the events once for each destination
of the source. -/
theorem inject_cases (hrun : b.dispatching = true) (source : Address) (events : List Bytes) :
    (∃ err, b.inject source events = (.error err, b)) ∨
      ∃ port batches, portAt? source = some port ∧
        b.inject source events = (.ok (), { b with queue := b.queue ++ batches }) ∧
        batches.flatMap Batch.labelled =
          ((b.destinations port).flatMap fun d => events.map (d, ·)).filter
            (fun x => (b.ports.lookup x.1).isSome) ∧
        ∀ batch ∈ batches, ∃ entry, b.ports.lookup batch.port = some entry ∧
          entry.owner = batch.client := by
  unfold Bus.inject
  cases hat : portAt? source with
  | none => exact .inl ⟨_, rfl⟩
  | some port =>
    cases hown : b.ownPort system port with
    | error err => exact .inl ⟨err, by simp [hown]⟩
    | ok entry =>
      refine .inr ⟨port, (b.destinations port).filterMap fun d => b.batchFor? d events, rfl, ?_, ?_,
        fun batch hmem => ?_⟩
      · simp [hown, enqueue, hrun]
      · have hgroups := b.batches_labelled ((b.destinations port).map fun d => (d, events))
        rw [List.filterMap_map, List.flatMap_map] at hgroups
        exact hgroups
      · obtain ⟨d, -, hbatch⟩ := List.mem_filterMap.mp hmem
        obtain ⟨entry, hlook, rfl⟩ := Option.map_eq_some_iff.mp hbatch
        exact ⟨entry, hlook, rfl⟩

theorem Balances.inject (h : b.Balances target l handed) (ht : b.Tidy) (settings : Settings)
    (policy : Ledger.Policy) (source : Address) (events : List Bytes) :
    (b.inject source events).2.Balances target
      (l.note settings policy b target (.inject source events)) handed := by
  rcases inject_cases h.dispatching source events with
    ⟨err, hout⟩ | ⟨port, batches, hat, hout, hmoved, howners⟩
  · rw [Ledger.note, hout]
    cases portAt? source <;> exact h
  have hevents : ((batches.flatMap Batch.labelled).filter (·.1 = target)).map (·.2) =
      if target ∈ b.destinations port then events else [] := by
    have hcopies : ((((b.destinations port).flatMap fun d => events.map (d, ·)).filter
        (·.1 = target)).map (·.2) : List Bytes) = _ := copies_labelled (b.destinations port) events
    rw [ht.filter_destinations] at hcopies
    rw [hmoved, List.filter_filter]
    split
    · rename_i hmem
      obtain ⟨r, hrole⟩ := ht.role?_of_mem hmem
      obtain ⟨entry, hlook, -⟩ := lookup_of_role? hrole
      have hthere : ∀ x : PortId × Bytes,
          (decide (x.1 = target) && (b.ports.lookup x.1).isSome) = decide (x.1 = target) := by
        intro x
        by_cases hx : x.1 = target
        · simp [hx, hlook]
        · simp [hx]
      rw [List.filter_congr fun x _ => hthere x, hcopies, if_pos hmem]
      simp
    · rename_i hmem
      rw [if_neg hmem, List.flatMap_nil, List.map_eq_nil_iff, List.filter_eq_nil_iff] at hcopies
      rw [List.map_eq_nil_iff, List.filter_eq_nil_iff]
      intro x hx hboth
      exact hcopies x hx (Bool.and_eq_true_iff.mp hboth).1
  have hbooks := h.queued hevents howners (List.Sublist.refl _) h.waiting_eq
  rw [Ledger.note, hat, hout]
  dsimp only
  split
  · rename_i hmem
    rw [if_pos hmem] at hbooks
    exact hbooks
  · rename_i hmem
    rw [if_neg hmem, List.append_nil] at hbooks
    exact hbooks

theorem received_captured (b : Bus η) (queue : List Batch) (port : PortId) (events : List Bytes) :
    received { b with queue, captured := b.captured ++ events.map (port, ·) } (address target) =
      b.received (address target) ++ if port = target then events else [] := by
  simp only [received, portAt?_address, List.filter_append, List.map_append, List.filter_map,
    List.map_map]
  by_cases hport : port = target <;> simp [hport, Function.comp_def]

/-- The books after a batch has left the queue, where `taken` is what was handed to a handler for
the port. -/
theorem Balances.taken (h : b.Balances target l handed) {batch : Batch} {rest : List Batch}
    (hqueue : b.queue = batch :: rest) (events : List Bytes) {taken : List (Delivery η)}
    (hgot : b.received (address target) ++ handed.flatMap (·.events) ++
        (if batch.port = target then batch.events else []) =
      b.received (address target) ++ (if batch.port = target then events else []) ++
        (handed ++ taken).flatMap (·.events))
    (hcaptured : batch.port = target → events ≠ [] →
      ∃ r, b.role? target = some r ∧ r.1 = system)
    (hcalled : taken ≠ [] → ∃ r, b.role? target = some r ∧ r.1 ≠ system) :
    Balances { b with queue := rest, captured := b.captured ++ events.map (batch.port, ·) } target l
      (handed ++ taken) where
  dispatching := h.dispatching
  sent_eq := by
    have hqueued : b.queuedFor target = (if batch.port = target then batch.events else []) ++
        queuedFor { b with queue := rest } target := by
      by_cases hport : batch.port = target <;> simp [queuedFor, hqueue, hport]
    rw [received_captured, ← hgot, List.append_assoc, ← h.sent_eq, hqueued]
    rfl
  waiting_eq := h.waiting_eq
  awaited := h.awaited
  addressed := fun other hmem => h.addressed other (hqueue ▸ List.mem_cons_of_mem _ hmem)
  captured := by
    intro hne
    by_cases hnone : b.received (address target) = []
    · rw [received_captured, hnone, List.nil_append] at hne
      split at hne
      · exact hcaptured ‹_› hne
      · exact absurd rfl hne
    · exact h.captured hnone
  called := by
    intro hne
    by_cases hnone : handed = []
    · rw [hnone, List.nil_append] at hne
      exact hcalled hne
    · exact h.called hnone

/-- A batch for hardware is captured. No handler was ever called for the port. -/
theorem Balances.dispatch_hardware (h : b.Balances target l handed) {batch : Batch}
    {rest : List Batch} (hqueue : b.queue = batch :: rest) (hport : batch.port = target)
    {entry : Port} (hlook : b.ports.lookup target = some entry) (hsystem : entry.owner = system) :
    deliver { b with queue := rest } batch = (none, { b with
        queue := rest
        captured := b.captured ++ batch.events.map (batch.port, ·) }) ∧
      Balances { b with queue := rest, captured := b.captured ++ batch.events.map (batch.port, ·) }
        target l handed := by
  have hnone : handed = [] := by
    by_contra hne
    obtain ⟨r, hr, hother⟩ := h.called hne
    rw [role?_eq hlook] at hr
    cases hr
    exact hother hsystem
  constructor
  · rw [deliver]
    dsimp only
    rw [hport, hlook]
    simp [hsystem]
  · have hbooks : Balances _ target l (handed ++ []) :=
      h.taken hqueue batch.events (by simp [hnone]) (fun _ _ => ⟨_, role?_eq hlook, hsystem⟩)
        fun hne => absurd rfl hne
    rwa [List.append_nil] at hbooks

/-- A batch for a client is handed to its handler. -/
theorem Balances.dispatch_client (h : b.Balances target l handed) {batch : Batch}
    {rest : List Batch} (hqueue : b.queue = batch :: rest) (hport : batch.port = target)
    {entry : Port} (hlook : b.ports.lookup target = some entry) (hother : entry.owner ≠ system)
    {handler : η} (hlisten : b.handlers.lookup batch.client = some handler) :
    deliver { b with queue := rest } batch =
        (some ⟨handler, target, batch.events⟩, { b with queue := rest }) ∧
      Balances { b with queue := rest } target l
        (handed ++ [⟨handler, target, batch.events⟩]) := by
  constructor
  · rw [deliver]
    dsimp only
    rw [hport, hlook]
    simp [hother, hlisten]
  · have hbooks : Balances { b with queue := rest, captured := b.captured ++ [] } target l
        (handed ++ [⟨handler, target, batch.events⟩]) :=
      h.taken hqueue [] (by simp [hport]) (fun _ hne => absurd rfl hne)
        fun _ => ⟨_, role?_eq hlook, hother⟩
    rwa [List.append_nil] at hbooks

/-- A batch for another port changes nothing for this one. -/
theorem Balances.dispatch_elsewhere (h : b.Balances target l handed) {batch : Batch}
    {rest : List Batch} (hqueue : b.queue = batch :: rest) (hport : batch.port ≠ target) :
    (deliver { b with queue := rest } batch).1.toList.filter (·.port = target) = [] ∧
      (deliver { b with queue := rest } batch).2.Balances target l handed := by
  obtain ⟨events, hafter, hdelivered⟩ := deliver_captured { b with queue := rest } batch
  constructor
  · rw [List.filter_eq_nil_iff]
    intro d hd heq
    rw [Option.mem_toList] at hd
    exact hport ((hdelivered d hd).symm.trans (of_decide_eq_true heq))
  · rw [hafter]
    have hbooks : Balances _ target l (handed ++ []) :=
      h.taken hqueue events (by simp [hport]) (fun heq => absurd heq hport) nofun
    rwa [List.append_nil] at hbooks

/-- The dispatcher takes the oldest batch. If it is for the port, the port gets its events. -/
theorem Balances.dispatch (h : b.Balances target l handed)
    (hattends : (b.role? target).isSome → b.attends target) :
    b.dispatch.2.Balances target l (handed ++ b.handover target .dispatch) ∧
      ∀ d ∈ b.handover target .dispatch, ∃ owner, b.role? target = some (owner, .input) ∧
        b.handlers.lookup owner = some d.handler := by
  unfold handover
  cases hqueue : b.queue with
  | nil =>
    have hstay : b.dispatch = (none, b) := by
      rw [Bus.dispatch, hqueue]
    rw [hstay]
    refine ⟨?_, fun d hd => absurd hd List.not_mem_nil⟩
    rwa [Option.toList_none, List.filter_nil, List.append_nil]
  | cons batch rest =>
    have hstep : b.dispatch = deliver { b with queue := rest } batch := by
      rw [Bus.dispatch, hqueue]
    rw [hstep]
    by_cases hport : batch.port = target
    · obtain ⟨direction, hrole⟩ := h.addressed batch (hqueue ▸ List.mem_cons_self) hport
      obtain ⟨entry, hlook, heq⟩ := lookup_of_role? hrole
      have howner : entry.owner = batch.client := congrArg Prod.fst heq
      have hheard : b.attends target = true := hattends (Option.isSome_of_eq_some hrole)
      obtain ⟨owner, hrole', hlisten⟩ := role?_of_attends hheard
      rw [hrole] at hrole'
      obtain ⟨hclient, hdirection⟩ := Prod.mk.inj (Option.some.inj hrole')
      by_cases hsystem : entry.owner = system
      · obtain ⟨hout, hbooks⟩ := h.dispatch_hardware hqueue hport hlook hsystem
        rw [hout]
        refine ⟨?_, fun d hd => absurd hd List.not_mem_nil⟩
        rwa [Option.toList_none, List.filter_nil, List.append_nil]
      · have hother : owner ≠ system := by
          rintro rfl
          exact hsystem (howner.trans hclient)
        obtain ⟨handler, hhandler⟩ := hlisten.resolve_left hother
        obtain ⟨hout, hbooks⟩ := h.dispatch_client hqueue hport hlook hsystem (hclient ▸ hhandler)
        have hmine : (some (⟨handler, target, batch.events⟩ : Delivery η)).toList.filter
            (·.port = target) = [⟨handler, target, batch.events⟩] := by
          simp
        rw [hout, hmine]
        refine ⟨hbooks, fun d hd => ?_⟩
        rw [List.mem_singleton.mp hd]
        exact ⟨owner, hclient ▸ hdirection ▸ hrole, hhandler⟩
    · obtain ⟨hnone, hbooks⟩ := h.dispatch_elsewhere hqueue hport
      rw [hnone, List.append_nil]
      exact ⟨hbooks, fun d hd => absurd hd List.not_mem_nil⟩

/-! ## Any number of actions -/

/-- A step. -/
theorem Balances.act (h : b.Balances target l handed) (ht : b.Tidy) (settings : Settings)
    (action : Action η) (hruns : action ≠ .halt)
    (hattends : (b.role? target).isSome → b.attends target)
    (hstays : (b.role? target).isSome → ((b.act settings action).2.role? target).isSome) :
    (b.act settings action).2.Balances target (l.note settings .strike b target action)
      (handed ++ b.handover target action) := by
  have hrole : ∀ r, b.role? target = some r → (b.act settings action).2.role? target = some r :=
    fun r hr => (act_rearranges settings b action).role?_stays hr
      (hstays (Option.isSome_of_eq_some hr))
  have hrest : (b.act settings action).2.Balances target (l.note settings .strike b target action)
        handed → b.handover target action = [] →
      (b.act settings action).2.Balances target (l.note settings .strike b target action)
        (handed ++ b.handover target action) := by
    intro hbooks hnone
    rwa [hnone, List.append_nil]
  have hquiet := b.act_quiet settings action
  cases action with
  | transmit client source bytes encoder =>
    exact hrest (h.transmit ht settings .strike client source bytes encoder) rfl
  | drain client => exact hrest (h.drain settings .strike client) rfl
  | inject source events => exact hrest (h.inject ht settings .strike source events) rfl
  | dispatch => exact (h.dispatch hattends).1
  | halt => exact absurd rfl hruns
  | closeClient client => exact hrest (h.closeClient settings client hrole) rfl
  | unregisterPort client port => exact hrest (h.unregisterPort hrole) rfl
  | removeSystemPort port =>
    refine hrest ?_ rfl
    simp only [Bus.act, removeSystemPort] at hrole ⊢
    split at hrole
    · exact h
    · exact h.unregisterPort hrole
  | _ =>
    obtain ⟨hdispatching, hqueue, houtbox, hcaptured⟩ := hquiet trivial
    exact hrest (h.same hrole hdispatching hqueue houtbox hcaptured) rfl

theorem Stays.tail {action : Action η} {actions : List (Action η)} {settings : Settings}
    (h : b.Stays settings target (action :: actions)) :
    (b.act settings action).2.Stays settings target actions := fun now hnow first hfirst =>
  h (action :: now) (List.cons_prefix_cons.mpr ⟨rfl, hnow⟩) (action :: first)
    (List.cons_prefix_cons.mpr ⟨rfl, hfirst⟩)

theorem Stays.here {actions : List (Action η)} {settings : Settings}
    (h : b.Stays settings target actions) : (b.role? target).isSome → b.attends target :=
  h [] List.nil_prefix [] List.nil_prefix

theorem Stays.there {actions : List (Action η)} {settings : Settings}
    (h : b.Stays settings target actions)
    (hthere : ((b.acts settings actions).2.role? target).isSome) :
    (b.acts settings actions).2.attends target :=
  h actions List.prefix_rfl actions List.prefix_rfl hthere

theorem Stays.next {action : Action η} {actions : List (Action η)} {settings : Settings}
    (h : b.Stays settings target (action :: actions)) (hthere : (b.role? target).isSome) :
    ((b.act settings action).2.role? target).isSome := by
  have hattends := h [action] (List.cons_prefix_cons.mpr ⟨rfl, List.nil_prefix⟩) [] List.nil_prefix
    hthere
  obtain ⟨owner, hrole, -⟩ := role?_of_attends hattends
  exact Option.isSome_of_eq_some hrole

instance (settings : Settings) (b : Bus η) (target : PortId) (actions : List (Action η)) :
    Decidable (b.Stays settings target actions) :=
  decidable_of_iff (∀ now ∈ actions.inits, ∀ first ∈ now.inits,
      ((b.acts settings first).2.role? target).isSome →
        (b.acts settings now).2.attends target) <| by
    simp only [Stays, List.mem_inits]

/-- A run. -/
theorem Balances.acts (h : b.Balances target l handed) (ht : b.Tidy) (settings : Settings)
    (actions : List (Action η)) (hruns : ∀ action ∈ actions, action ≠ .halt)
    (hstays : b.Stays settings target actions) :
    (b.acts settings actions).2.Balances target (b.ledger settings .strike target l actions)
      (handed ++ b.handovers settings target actions) := by
  induction actions generalizing b l handed with
  | nil => simpa [ledger, handovers, Bus.acts] using h
  | cons action actions ih =>
    have hbooks := h.act ht settings action (hruns _ List.mem_cons_self) hstays.here hstays.next
    have hmore := ih hbooks (ht.rearranged (act_rearranges settings b action))
      (fun a ha => hruns a (List.mem_cons_of_mem _ ha)) hstays.tail
    rw [List.append_assoc] at hmore
    exact hmore

/-- **Events reach a port once and in the order in which they were sent.** Take any actions on a new
bus, of any number of clients, between which the dispatcher runs at any times, without a handler
failing; and a port that stays, as hardware or with a handler of its client, from when it is
registered. The events captured from it or handed to a handler for it, followed by those queued for
it, are those drained or injected for it; what a client had not drained when it was closed is struck
out. Only a port of the hardware has its events captured; a batch for another goes to the handler
that its owner has at that time. A drain succeeds whatever became of other ports, and queues each
event that waits under the port it is for, in order, unless that port is gone. -/
theorem acts_first_in_first_out (settings : Settings) (actions : List (Action η)) (target : PortId)
    (hruns : ∀ action ∈ actions, action ≠ .halt)
    (hstays : ({} : Bus η).Stays settings target actions) :
    let run := (({} : Bus η).acts settings actions).2
    let handed := ({} : Bus η).handovers settings target actions
    (run.received (address target) ++ handed.flatMap (·.events) ++ run.queuedFor target =
        (({} : Bus η).ledger settings .strike target {} actions).sent ∧
      (run.received (address target) = [] ∨ handed = [])) ∧
    (∀ d, run.dispatch.1 = some d → d.port = target →
      ∃ owner, run.role? target = some (owner, .input) ∧
        run.handlers.lookup owner = some d.handler) ∧
    ∀ client, ((driver settings).drain run client).1 = .ok () ∧
      ((driver settings).drain run client).2.traffic = run.traffic ++
        ((run.outbox.filter (·.sender = client)).map fun q => (q.destination, q.event)).filter
          fun x => (run.ports.lookup x.1).isSome := by
  intro run handed
  have hbooks : run.Balances target _ handed :=
    (balances_empty target).acts tidy_empty settings actions hruns hstays
  refine ⟨⟨hbooks.sent_eq, hbooks.one_way⟩, fun d hd hport => ?_, fun client => ?_⟩
  · refine (hbooks.dispatch hstays.there).2 d ?_
    rw [handover, hd, Option.toList_some, List.mem_filter]
    exact ⟨List.mem_singleton_self d, decide_eq_true hport⟩
  · obtain ⟨batches, hdrain, hmoved, -⟩ := drain_ok hbooks.dispatching client
    have hdriver : (driver settings).drain run client = _ := hdrain
    rw [hdriver]
    refine ⟨rfl, ?_⟩
    rw [← hmoved, traffic, List.flatMap_append, traffic]

/-- A player sends to a reader and to hardware that is gone before the player drains, and a keyboard
plays in between. -/
theorem first_in_first_out_two_senders :
    let actions : List (Action String) := [.addSource "keys", .addDestination "synth",
      .openClient "player", .registerPort ⟨3⟩ "out" .output .connectable, .openClient "reader",
      .setHandler ⟨5⟩ "read", .registerPort ⟨5⟩ "in" .input .connectable,
      .connect ⟨3⟩ ⟨4⟩ ⟨"2"⟩, .connect ⟨3⟩ ⟨4⟩ ⟨"6"⟩, .connect ⟨5⟩ ⟨6⟩ ⟨"1"⟩,
      .transmit ⟨3⟩ ⟨4⟩ [0xF8, 0xFA] (.ofCapacity 8), .inject ⟨"1"⟩ [[0xFE]],
      .transmit ⟨3⟩ ⟨4⟩ [0xFA] (.ofCapacity 8), .dispatch, .removeSystemPort ⟨"2"⟩, .drain ⟨3⟩,
      .dispatch, .inject ⟨"1"⟩ [[0xFF]]]
    let run := (({} : Bus String).acts {} actions).2
    ({} : Bus String).handovers {} ⟨6⟩ actions =
        [⟨"read", ⟨6⟩, [[0xFE]]⟩, ⟨"read", ⟨6⟩, [[0xF8]]⟩] ∧
      run.queuedFor ⟨6⟩ = [[0xFA], [0xFF]] ∧
      (({} : Bus String).ledger {} .strike ⟨6⟩ {} actions).sent =
        [[0xFE], [0xF8], [0xFA], [0xFF]] := by
  intro actions run
  have hhanded : ({} : Bus String).handovers {} ⟨6⟩ actions =
      [⟨"read", ⟨6⟩, [[0xFE]]⟩, ⟨"read", ⟨6⟩, [[0xF8]]⟩] := by decide +kernel
  have hqueued : run.queuedFor ⟨6⟩ = [[0xFA], [0xFF]] := by decide +kernel
  have hall := (acts_first_in_first_out {} actions ⟨6⟩ (by simp [actions]) (by decide +kernel)).1
  have hnothing : run.received (address ⟨6⟩) = [] :=
    hall.2.resolve_right (by rw [hhanded]; nofun)
  refine ⟨hhanded, hqueued, ?_⟩
  rw [← hall.1, hhanded, hqueued]
  change run.received (address ⟨6⟩) ++ _ ++ _ = _
  rw [hnothing]
  rfl

/-- A player transmits to hardware that stays, and is closed before it drains. If that is not struck
out, the drain counts it as sent, and it never gets anywhere. -/
theorem transmitted_lost_by_closing :
    let actions : List (Action String) := [.addDestination "synth", .openClient "player",
      .registerPort ⟨2⟩ "out" .output .connectable, .connect ⟨2⟩ ⟨3⟩ ⟨"1"⟩,
      .transmit ⟨2⟩ ⟨3⟩ [0xF8] (.ofCapacity 8), .closeClient ⟨2⟩, .drain ⟨2⟩]
    let run := (({} : Bus String).acts {} actions).2
    let handed := ({} : Bus String).handovers {} ⟨1⟩ actions
    (∀ action ∈ actions, action ≠ .halt) ∧ ({} : Bus String).Stays {} ⟨1⟩ actions ∧
      (({} : Bus String).ledger {} .keep ⟨1⟩ {} actions).sent = [[0xF8]] ∧
      run.received (address ⟨1⟩) ++ handed.flatMap (·.events) ++ run.queuedFor ⟨1⟩ = [] := by
  intro actions run handed
  exact ⟨by simp [actions], by decide +kernel, by decide +kernel, by decide +kernel⟩

end Bus

end PatchBay
