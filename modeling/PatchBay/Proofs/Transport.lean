import PatchBay.Bus

/-!
# What is on its way over the bus

A *line* leads from a source of one client to a destination of another. What is on its way over a
line waits in the sender's outbox or in the dispatch queue; the three operations that move it leave
its order as it is.
-/

namespace PatchBay

namespace Bus

variable {η : Type}

/-- A source and a destination, with the clients that own them. -/
structure Line where
  sender : ClientId
  source : PortId
  receiver : ClientId
  target : PortId

/-- The events in the dispatch queue for a port. -/
def queuedFor (b : Bus η) (port : PortId) : List Bytes :=
  (b.queue.filter (·.port = port)).flatMap (·.events)

/-- The events in the outbox that a client transmitted to a port. -/
def waitingFor (b : Bus η) (client : ClientId) (port : PortId) : List Bytes :=
  (b.outbox.filter fun q => q.sender = client ∧ q.destination = port).map (·.event)

/-- The events on their way over a line, the oldest first. -/
def inFlight (b : Bus η) (l : Line) : List Bytes :=
  b.queuedFor l.target ++ b.waitingFor l.sender l.target

/-- A line is in order: the source is subscribed to once by the destination, which belongs to a
client that listens with `handler`, all that is queued for the destination is addressed to that
client, and the dispatcher runs. -/
structure Carries (b : Bus η) (l : Line) (handler : η) : Prop where
  source : ∃ entry, b.ports.lookup l.source = some entry ∧ entry.owner = l.sender ∧
    entry.direction = .output
  target : ∃ entry, b.ports.lookup l.target = some entry ∧ entry.owner = l.receiver
  user : l.receiver ≠ system
  listens : b.handlers.lookup l.receiver = some handler
  once : (b.destinations l.source).filter (· = l.target) = [l.target]
  dispatching : b.dispatching = true
  addressed : ∀ batch ∈ b.queue, batch.port = l.target → batch.client = l.receiver

variable {b : Bus η} {l : Line} {handler : η}

/-! ## Transmitting -/

theorem ownPort_source (h : b.Carries l handler) :
    ∃ entry, b.ownPort l.sender l.source = .ok entry ∧ entry.direction = .output := by
  obtain ⟨entry, hlook, howner, hdir⟩ := h.source
  exact ⟨entry, by rw [ownPort, hlook]; simp [howner], hdir⟩

/-- An event that is transmitted is the last one on its way. -/
theorem Carries.transmit (h : b.Carries l handler) {encoder after : Encoder} {bytes : Bytes}
    {n : Nat} (he : encoder.encode bytes = (.ok n, after)) :
    ∃ b', b.transmit l.sender l.source bytes encoder = (.ok n, after, b') ∧
      b'.Carries l handler ∧ b'.inFlight l = b.inFlight l ++ [after.event] := by
  obtain ⟨entry, hown, hdir⟩ := ownPort_source h
  have hfor : encoder.encodeFor bytes = (.ok n, after) := by
    rw [Encoder.encodeFor, he]
    rfl
  let added : List Pending :=
    (b.destinations l.source).map fun d => ⟨l.sender, d, after.event⟩
  have hadded :
      (added.filter fun q => q.sender = l.sender ∧ q.destination = l.target).map (·.event) =
        [after.event] := by
    have hfilter := congrArg (List.map fun _ => after.event) h.once
    rw [List.filter_map, List.map_map]
    simpa [Function.comp_def] using hfilter
  refine ⟨{ b with outbox := b.outbox ++ added }, ?_,
    ⟨h.source, h.target, h.user, h.listens, h.once, h.dispatching, h.addressed⟩, ?_⟩
  · rw [Bus.transmit, hown]
    simp [hdir, hfor, added]
  · unfold inFlight waitingFor queuedFor
    rw [List.filter_append, List.map_append, hadded, List.append_assoc]

/-! ## Draining -/

/-- The events of a batch, each with the port it is for. -/
def Batch.labelled (batch : Batch) : List (PortId × Bytes) := batch.events.map (batch.port, ·)

/-- The queued events, each with the port it is for. -/
def traffic (b : Bus η) : List (PortId × Bytes) := b.queue.flatMap Batch.labelled

theorem filter_labelled (batch : Batch) (port : PortId) :
    (batch.labelled.filter (·.1 = port)).map (·.2) =
      if batch.port = port then batch.events else [] := by
  rw [Batch.labelled, List.filter_map, List.map_map]
  by_cases hport : batch.port = port <;> simp [hport, Function.comp_def]

theorem queuedFor_eq (b : Bus η) (port : PortId) :
    b.queuedFor port = (b.traffic.filter (·.1 = port)).map (·.2) := by
  unfold queuedFor traffic
  induction b.queue with
  | nil => rfl
  | cons batch queue ih =>
    rw [List.flatMap_cons, List.filter_append, List.map_append, ← ih, filter_labelled,
      List.filter_cons]
    by_cases hport : batch.port = port <;> simp [hport]

/-- Grouping an outbox into runs leaves each event with its destination, in order. -/
theorem runs_labelled (waiting : List Pending) :
    (runs waiting).flatMap (fun r => r.2.map (r.1, ·)) =
      waiting.map fun q => (q.destination, q.event) := by
  induction waiting with
  | nil => rfl
  | cons q rest ih =>
    rw [List.map_cons, ← ih, runs]
    cases hruns : runs rest with
    | nil => rfl
    | cons run more =>
      obtain ⟨d, events⟩ := run
      by_cases hd : d = q.destination <;> simp [hd]

/-- Of the groups those whose port is there become batches. -/
theorem batches_labelled (b : Bus η) (groups : List (PortId × List Bytes)) :
    (groups.filterMap fun g => b.batchFor? g.1 g.2).flatMap Batch.labelled =
      (groups.flatMap fun g => g.2.map (g.1, ·)).filter
        fun x => (b.ports.lookup x.1).isSome := by
  induction groups with
  | nil => rfl
  | cons g groups ih =>
    rw [List.filterMap_cons, List.flatMap_cons, List.filter_append, ← ih, batchFor?,
      List.filter_map]
    cases hport : b.ports.lookup g.1 with
    | none => simp [Function.comp_def, -List.lookup_isSome_iff, hport]
    | some entry =>
      have hall : g.2.filter (fun _ => true) = g.2 := List.filter_eq_self.mpr fun _ _ => rfl
      simp [Function.comp_def, -List.lookup_isSome_iff, hport, Batch.labelled, hall]

/-- Draining moves what waits into the queue, behind what is there, in batches for the owners of
their ports. Events whose port is gone are dropped. -/
theorem drain_ok (hrun : b.dispatching = true) (client : ClientId) :
    ∃ batches, b.drain client =
        (.ok (), { b with
          outbox := b.outbox.filter (·.sender ≠ client)
          queue := b.queue ++ batches }) ∧
      batches.flatMap Batch.labelled =
        ((b.outbox.filter (·.sender = client)).map fun q => (q.destination, q.event)).filter
          (fun x => (b.ports.lookup x.1).isSome) ∧
      ∀ batch ∈ batches, ∃ entry, b.ports.lookup batch.port = some entry ∧
        entry.owner = batch.client := by
  refine ⟨(runs (b.outbox.filter (·.sender = client))).filterMap fun g => b.batchFor? g.1 g.2,
    ?_, ?_, fun batch hmem => ?_⟩
  · rw [drain, enqueue, hrun]
    rfl
  · rw [batches_labelled, runs_labelled]
  · obtain ⟨g, -, hbatch⟩ := List.mem_filterMap.mp hmem
    obtain ⟨entry, hport, rfl⟩ := Option.map_eq_some_iff.mp hbatch
    exact ⟨entry, hport, rfl⟩

/-- What a drain adds to the queue for a port that is there is what waited for it. -/
theorem waitingFor_eq {port : PortId} {entry : Port} (hport : b.ports.lookup port = some entry)
    (client : ClientId) :
    ((((b.outbox.filter (·.sender = client)).map fun q => (q.destination, q.event)).filter
      fun x => (b.ports.lookup x.1).isSome).filter (·.1 = port)).map (·.2) =
      b.waitingFor client port := by
  have hthere : ∀ x : PortId × Bytes,
      (decide (x.1 = port) && (b.ports.lookup x.1).isSome) = decide (x.1 = port) := by
    intro x
    by_cases hx : x.1 = port
    · simp [hx, hport]
    · simp [hx]
  rw [List.filter_filter, List.filter_congr fun x _ => hthere x, List.filter_map, List.map_map,
    List.filter_filter, waitingFor]
  simp [Function.comp_def, Bool.and_comm]

/-- Draining a line moves what waits into the queue, behind what is there. -/
theorem Carries.drain (h : b.Carries l handler) :
    ∃ b', b.drain l.sender = (.ok (), b') ∧ b'.Carries l handler ∧
      b'.inFlight l = b.inFlight l ∧ b'.waitingFor l.sender l.target = [] := by
  obtain ⟨entry, hport, howner⟩ := h.target
  obtain ⟨batches, hdrain, hmoved, howners⟩ := drain_ok h.dispatching l.sender
  refine ⟨_, hdrain, ⟨h.source, h.target, h.user, h.listens, h.once, h.dispatching, ?_⟩, ?_, ?_⟩
  · intro batch hmem hto
    rcases List.mem_append.mp hmem with hmem | hmem
    · exact h.addressed batch hmem hto
    · obtain ⟨other, hother, hclient⟩ := howners batch hmem
      rw [hto, hport] at hother
      cases hother
      exact hclient.symm.trans howner
  · have hnone : waitingFor { b with
        outbox := b.outbox.filter (·.sender ≠ l.sender)
        queue := b.queue ++ batches } l.sender l.target = [] := by
      simp +contextual [waitingFor]
    rw [inFlight, hnone, queuedFor_eq, traffic, List.flatMap_append, hmoved, List.filter_append,
      List.map_append, waitingFor_eq hport, List.append_nil, inFlight, queuedFor_eq, traffic]
  · simp +contextual [waitingFor]

/-! ## Dispatching -/

/-- Delivering a batch changes nothing on the bus but what is captured from its port. -/
theorem deliver_captured (b : Bus η) (batch : Batch) :
    ∃ events : List Bytes,
      (b.deliver batch).2 = { b with captured := b.captured ++ events.map (batch.port, ·) } ∧
      ∀ d, (b.deliver batch).1 = some d → d.port = batch.port := by
  have hsame : b = { b with captured := b.captured ++ ([] : List Bytes).map (batch.port, ·) } := by
    rw [List.map_nil, List.append_nil]
  unfold Bus.deliver
  split
  · exact ⟨[], hsame, by simp⟩
  split
  · exact ⟨batch.events, rfl, by simp⟩
  · refine ⟨[], hsame, fun d hd => ?_⟩
    obtain ⟨_, -, rfl⟩ := Option.map_eq_some_iff.mp hd
    rfl

/-- A step of the dispatcher takes the first batch from the queue. -/
theorem dispatch_queue (b : Bus η) : b.dispatch.2.queue = b.queue.tail := by
  unfold Bus.dispatch
  split
  · rename_i hq
    rw [hq]
    rfl
  · rename_i batch rest hq
    obtain ⟨captured, hafter, -⟩ := deliver_captured { b with queue := rest } batch
    rw [hafter, hq]
    rfl

/-- The dispatcher hands the oldest events on their way to the receiver, or leaves all of them where
they are. -/
theorem Carries.dispatch (h : b.Carries l handler) :
    b.dispatch.2.Carries l handler ∧
      b.dispatch.2.waitingFor l.sender l.target = b.waitingFor l.sender l.target ∧
      ((∃ events, b.dispatch.1 = some ⟨handler, l.target, events⟩ ∧
          b.inFlight l = events ++ b.dispatch.2.inFlight l) ∨
        b.dispatch.2.inFlight l = b.inFlight l ∧
          ∀ d, b.dispatch.1 = some d → d.port ≠ l.target) := by
  cases hq : b.queue with
  | nil =>
    have hstay : b.dispatch = (none, b) := by
      rw [Bus.dispatch, hq]
    rw [hstay]
    exact ⟨h, rfl, .inr ⟨rfl, by simp⟩⟩
  | cons batch queue =>
    let rest : Bus η := { b with queue }
    have hstep : b.dispatch = rest.deliver batch := by
      rw [Bus.dispatch, hq]
    have hrest : rest.Carries l handler :=
      ⟨h.source, h.target, h.user, h.listens, h.once, h.dispatching, fun other hmem =>
        h.addressed other (by rw [hq]; exact List.mem_cons_of_mem _ hmem)⟩
    rw [hstep]
    by_cases hto : batch.port = l.target
    · obtain ⟨entry, hport, howner⟩ := h.target
      have hclient : batch.client = l.receiver :=
        h.addressed batch (by rw [hq]; exact List.mem_cons_self ..) hto
      have hout : rest.deliver batch = (some ⟨handler, l.target, batch.events⟩, rest) := by
        have hlook : rest.ports.lookup batch.port = some entry := by
          rw [hto]
          exact hport
        have hlisten : rest.handlers.lookup batch.client = some handler := by
          rw [hclient]
          exact h.listens
        have huser : entry.owner ≠ system := by
          rw [howner]
          exact h.user
        rw [Bus.deliver, hlook]
        simp [huser, hlisten, hto]
      rw [hout]
      refine ⟨hrest, rfl, .inl ⟨batch.events, rfl, ?_⟩⟩
      simp [inFlight, queuedFor, hq, hto, rest]
      rfl
    · obtain ⟨captured, hafter, hport⟩ := deliver_captured rest batch
      rw [hafter]
      refine ⟨⟨h.source, h.target, h.user, h.listens, h.once, h.dispatching, hrest.addressed⟩, rfl,
        .inr ⟨?_, fun d hd heq => hto ((hport d hd).symm.trans heq)⟩⟩
      simp [inFlight, queuedFor, waitingFor, hq, hto, rest]

end Bus

end PatchBay
