import PatchBay.Proofs.Deliveries

/-!
# Nothing reaches a port that was removed

A batch is queued for a port and the client that owned it at that time, and leaves the queue at some
later time, when the port may be gone and the client may have another handler or none. Two things
make this safe. Handles are not given out twice, so that a port that is gone stays gone; and a port
stays with its owner, so that the client a batch is queued for is the owner of its port as long as
the port is there.
-/

namespace PatchBay

namespace Bus

variable {η : Type} {b after : Bus η} {port : PortId} {client : ClientId}

/-! ## Ports that are gone -/

/-- Whether an action removes a port: its owner removes it, or a client is closed that owns it, or
it is a hardware port that is removed. Closing the system client removes nothing. -/
def Removes (b : Bus η) (port : PortId) : Action η → Prop
  | .unregisterPort client p => p = port ∧ b.owns client port
  | .closeClient client => client ≠ system ∧ b.owns client port
  | .removeSystemPort a => portAt? a = some port ∧ b.owns system port
  | _ => False

/-- The handle of a port was given out, and the port is not there any more. -/
structure Gone (b : Bus η) (port : PortId) : Prop where
  below : port.number < b.nextId
  absent : b.role? port = none

theorem Gone.evolves (h : b.Gone port) {given : List UInt32} (he : b.Evolves given after) :
    after.Gone port := by
  have hle := he.precedes.nextId_le
  exact ⟨UInt32.lt_of_lt_of_le h.below hle, he.precedes.role?_none h.below h.absent⟩

theorem Consistent.gone_of_removes (h : b.Consistent) (settings : Settings) {removal : Action η}
    (hremoves : b.Removes port removal) : (b.act settings removal).2.Gone port := by
  have hunregister : ∀ client, b.owns client port = true →
      (b.unregisterPort client port).Gone port := by
    intro client howns
    obtain ⟨r, hr⟩ := role?_of_owns howns
    rw [Bus.unregisterPort, if_pos howns]
    exact ⟨h.port_below hr, by rw [role?_removePort, if_pos rfl]⟩
  cases removal with
  | unregisterPort client p =>
    obtain ⟨rfl, howns⟩ := hremoves
    exact hunregister client howns
  | closeClient client =>
    obtain ⟨hclient, howns⟩ := hremoves
    obtain ⟨r, hr⟩ := role?_of_owns howns
    obtain ⟨-, -, -, hnext⟩ := removePorts_rest (b := b) (b.portsOf client)
    have hgone : (b.act settings (.closeClient client)).2 = _ := if_neg hclient
    rw [hgone]
    refine ⟨?_, (removePorts_role? b _ port).trans (if_pos (h.mem_portsOf_iff.mpr howns))⟩
    change port.number < ((b.portsOf client).foldl Bus.removePort b).nextId
    rw [hnext]
    exact h.port_below hr
  | removeSystemPort a =>
    obtain ⟨hat, howns⟩ := hremoves
    have hgone : (b.act settings (.removeSystemPort a)).2 = b.unregisterPort system port := by
      simp only [Bus.act, Bus.removeSystemPort, hat]
    rw [hgone]
    exact hunregister system howns
  | _ => exact hremoves.elim

/-- A batch that is handed over was in the queue, its port is there and is no hardware, and its
client has the handler. -/
theorem dispatch_called {d : Delivery η} (h : b.dispatch.1 = some d) :
    ∃ batch ∈ b.queue, ∃ entry, b.ports.lookup d.port = some entry ∧ entry.owner ≠ system ∧
      batch.port = d.port ∧ b.handlers.lookup batch.client = some d.handler := by
  cases hqueue : b.queue with
  | nil =>
    rw [dispatch, hqueue] at h
    cases h
  | cons batch rest =>
    rw [dispatch, hqueue] at h
    simp only [deliver] at h
    split at h
    · cases h
    rename_i entry hlook
    split at h
    · cases h
    rename_i howner
    obtain ⟨handler, hhandler, rfl⟩ := Option.map_eq_some_iff.mp h
    exact ⟨batch, List.mem_cons_self, entry, hlook, howner, rfl, hhandler⟩

/-- Nothing is handed over for a port that is gone. -/
theorem Gone.handover (h : b.Gone port) (action : Action η) : b.handover port action = [] := by
  cases action with
  | dispatch =>
    rw [Bus.handover, List.filter_eq_nil_iff]
    intro d hd hport
    obtain ⟨-, -, entry, hlook, -⟩ := dispatch_called (Option.mem_toList.mp hd)
    have hrole := role?_eq hlook
    rw [of_decide_eq_true hport, h.absent] at hrole
    cases hrole
  | _ => rfl

theorem Gone.handovers (h : b.Gone port) (hc : b.Consistent) (settings : Settings)
    (later : List (Action η))
    (hspare : b.nextId.toNat + (b.acts settings later).1.length < UInt32.size) :
    b.handovers settings port later = [] := by
  induction later generalizing b with
  | nil => rfl
  | cons action later ih =>
    simp only [Bus.acts, List.length_append] at hspare
    have hstep := hc.act settings action (by omega)
    rw [Bus.handovers, h.handover, List.nil_append]
    refine ih (h.evolves hstep) hstep.consistent ?_
    rw [hstep.nextId_eq]
    omega

/-- What was captured is of ports that are there. -/
theorem Gone.not_captured (h : b.Gone port) (hc : b.Consistent) (event : Bytes) :
    (port, event) ∉ b.captured := by
  intro hmem
  have hrole := hc.captured_input _ hmem
  rw [h.absent] at hrole
  cases hrole

/-! ## Whom a batch is for -/

/-- Each batch in the queue is for the client that owns its port, if the port is there. -/
def Addressed (b : Bus η) : Prop :=
  ∀ batch ∈ b.queue, ∀ r, b.role? batch.port = some r → r.1 = batch.client

theorem addressed_empty : ({} : Bus η).Addressed := fun _ hmem => nomatch hmem

theorem mem_enqueue {batches : List Batch} {batch : Batch}
    (h : batch ∈ (b.enqueue batches).2.queue) : batch ∈ b.queue ∨ batch ∈ batches := by
  unfold enqueue at h
  split at h
  · exact List.mem_append.mp h
  · exact .inl h

/-- A batch is made for the owner of its port. -/
theorem role?_of_batchFor? {events : List Bytes} {batch : Batch}
    (h : b.batchFor? port events = some batch) :
    ∃ direction, b.role? batch.port = some (batch.client, direction) := by
  obtain ⟨entry, hlook, rfl⟩ := Option.map_eq_some_iff.mp h
  exact ⟨entry.direction, role?_eq hlook⟩

/-- What is in the queue after an action was in it before, or is for the owner of its port. -/
theorem act_queue (b : Bus η) (settings : Settings) (action : Action η) :
    ∀ batch ∈ (b.act settings action).2.queue, batch ∈ b.queue ∨
      ∃ direction, b.role? batch.port = some (batch.client, direction) := by
  intro batch hmem
  have hquiet := b.act_quiet settings action
  have hunregister : ∀ client port, (b.unregisterPort client port).queue = b.queue := by
    intro client port
    unfold unregisterPort
    split <;> rfl
  cases action with
  | closeClient client =>
    simp only [Bus.act, driver, Bus.closeClient] at hmem
    split at hmem
    · exact .inl hmem
    · obtain ⟨hqueue, -⟩ := removePorts_rest (b := b) (b.portsOf client)
      exact .inl (hqueue ▸ hmem)
  | unregisterPort client port => exact .inl (hunregister client port ▸ hmem)
  | removeSystemPort port =>
    simp only [Bus.act, removeSystemPort] at hmem
    split at hmem
    · exact .inl hmem
    · exact .inl (hunregister system _ ▸ hmem)
  | transmit client port bytes encoder =>
    rcases b.transmit_cases client port bytes encoder with ⟨_, _, hsame⟩ | ⟨_, _, hadded⟩
    · simp only [Bus.act, driver, hsame] at hmem
      exact .inl hmem
    · simp only [Bus.act, driver, hadded] at hmem
      exact .inl hmem
  | drain client =>
    rcases mem_enqueue hmem with hold | hnew
    · exact .inl hold
    · obtain ⟨run, -, hbatch⟩ := List.mem_filterMap.mp hnew
      exact .inr (role?_of_batchFor? hbatch)
  | inject source events =>
    simp only [Bus.act, Bus.inject] at hmem
    split at hmem
    · exact .inl hmem
    split at hmem
    · exact .inl hmem
    rcases mem_enqueue hmem with hold | hnew
    · exact .inl hold
    · obtain ⟨d, -, hbatch⟩ := List.mem_filterMap.mp hnew
      exact .inr (role?_of_batchFor? hbatch)
  | dispatch => exact .inl (List.mem_of_mem_tail (dispatch_queue b ▸ hmem))
  | halt => cases hmem
  | _ => exact .inl ((hquiet trivial).2.1 ▸ hmem)

/-- A port that is there after an action, and was there before with some owner, has that owner: what
is in the queue for it stays addressed. -/
theorem Addressed.act (h : b.Addressed) (hc : b.Consistent) (settings : Settings)
    (action : Action η)
    (hspare : b.nextId.toNat + (b.act settings action).1.length < UInt32.size) :
    (b.act settings action).2.Addressed := by
  have hprecedes := (hc.act settings action hspare).precedes
  intro batch hmem r hr
  rcases b.act_queue settings action batch hmem with hold | ⟨direction, hnow⟩
  · have hbelow := (hc.queue_aims batch hold).1
    exact h batch hold r (hprecedes.port _ _ hbelow hr)
  · have hback := hprecedes.port _ _ (hc.port_below hnow) hr
    rw [hnow] at hback
    cases hback
    rfl

theorem Addressed.acts (h : b.Addressed) (hc : b.Consistent) (settings : Settings)
    (actions : List (Action η))
    (hspare : b.nextId.toNat + (b.acts settings actions).1.length < UInt32.size) :
    (b.acts settings actions).2.Addressed := by
  induction actions generalizing b with
  | nil => exact h
  | cons action actions ih =>
    simp only [Bus.acts, List.length_append] at hspare ⊢
    have hstep := hc.act settings action (by omega)
    refine ih (h.act hc settings action (by omega)) hstep.consistent ?_
    rw [hstep.nextId_eq]
    omega

/-- A handler is called for a port that is there, and it is the one of the client that owns it. -/
theorem Addressed.dispatch_called (h : b.Addressed) {d : Delivery η} (hd : b.dispatch.1 = some d) :
    ∃ entry, b.ports.lookup d.port = some entry ∧ entry.owner ≠ system ∧
      b.handlers.lookup entry.owner = some d.handler := by
  obtain ⟨batch, hmem, entry, hlook, howner, hport, hhandler⟩ := Bus.dispatch_called hd
  have hclient : entry.owner = batch.client := h batch hmem _ (hport ▸ role?_eq hlook)
  exact ⟨entry, hlook, howner, hclient ▸ hhandler⟩

/-! ## While a handler runs

The dispatcher calls a handler with the lock on all handlers in its hands. The actions that need the
lock wait for the handler to return; the others may happen meanwhile, some of them called by the
handler itself. -/

/-- Whether an action waits for a handler that runs. -/
def Action.waits : Action η → Bool
  | .closeClient _ | .setHandler _ _ | .registerPort _ _ _ _ | .unregisterPort _ _
  | .removeSystemPort _ | .dispatch | .halt => true
  | _ => false

theorem act_meanwhile (settings : Settings) (b : Bus η) (port : PortId) {action : Action η}
    (hwaits : action.waits = false) :
    (b.act settings action).2.handlers = b.handlers ∧
      ∀ r, b.role? port = some r → (b.act settings action).2.role? port = some r := by
  cases action with
  | openClient name =>
    simp only [Bus.act, driver, Bus.openClient]
    split
    · exact ⟨rfl, fun r hr => hr⟩
    · exact ⟨rfl, fun r hr => hr⟩
  | renamePort client p name =>
    simp only [Bus.act, driver]
    split
    · refine ⟨?_, fun r hr => (role?_renamePort b client p name port).trans hr⟩
      rcases b.renamePort_cases client p name with hsame | ⟨-, hnamed⟩
      · rw [hsame]
      · rw [hnamed]
    · exact ⟨rfl, fun r hr => hr⟩
  | connect client p peer =>
    simp only [Bus.act, driver]
    rcases b.connect_cases client p peer with hsame | ⟨s, -, -, -, -, hadded⟩
    · rw [hsame]
      exact ⟨rfl, fun r hr => hr⟩
    · rw [hadded]
      exact ⟨rfl, fun r hr => hr⟩
  | disconnect client p =>
    simp only [Bus.act, driver, Bus.disconnect]
    split
    · exact ⟨rfl, fun r hr => hr⟩
    · exact ⟨rfl, fun r hr => hr⟩
  | transmit client p bytes encoder =>
    simp only [Bus.act, driver]
    rcases b.transmit_cases client p bytes encoder with ⟨_, _, hsame⟩ | ⟨_, _, hadded⟩
    · rw [hsame]
      exact ⟨rfl, fun r hr => hr⟩
    · rw [hadded]
      exact ⟨rfl, fun r hr => hr⟩
  | drain client =>
    obtain ⟨queue, hdrained⟩ := b.drain_rest client
    simp only [Bus.act, driver, hdrained]
    exact ⟨trivial, fun r hr => hr⟩
  | inject source events =>
    obtain ⟨queue, hinjected⟩ := b.inject_rest source events
    simp only [Bus.act, hinjected]
    exact ⟨trivial, fun r hr => hr⟩
  | addSource name => exact ⟨rfl, fun r hr => role?_addPort hr⟩
  | addDestination name => exact ⟨rfl, fun r hr => role?_addPort hr⟩
  | setAvailable available => exact ⟨rfl, fun r hr => hr⟩
  | _ => cases hwaits

theorem acts_meanwhile (settings : Settings) (b : Bus η) (port : PortId)
    {actions : List (Action η)} (hwaits : ∀ action ∈ actions, action.waits = false) :
    (b.acts settings actions).2.handlers = b.handlers ∧
      ∀ r, b.role? port = some r → (b.acts settings actions).2.role? port = some r := by
  induction actions generalizing b with
  | nil => exact ⟨rfl, fun r hr => hr⟩
  | cons action actions ih =>
    have hfirst := act_meanwhile settings b port (hwaits action List.mem_cons_self)
    have hrest := ih (b.act settings action).2
      fun other hmem => hwaits other (List.mem_cons_of_mem _ hmem)
    exact ⟨hrest.1.trans hfirst.1, fun r hr => hrest.2 r (hfirst.2 r hr)⟩

/-- **Nothing reaches a port that was removed, and nobody but its owner is called for a port.**
After any actions on a new bus that give out fewer than `2 ^ 32 - 1` handles: once an action has
removed a port, no handler is called for it and nothing is captured from it, whatever happens later
and whatever was queued for it; and a handler that the dispatcher calls for a port is the one that
the port's owner has installed. The port is there when it is called, and both stay while it runs,
whatever happens meanwhile that does not wait for it. -/
theorem no_delivery_after_removal (settings : Settings) (first later meanwhile : List (Action η))
    (removal : Action η) (port : PortId)
    (hspare : (({} : Bus η).acts settings (first ++ removal :: later)).1.length <
      UInt32.size - 1) :
    let b := (({} : Bus η).acts settings first).2
    let gone := (b.act settings removal).2
    (b.Removes port removal →
      gone.handovers settings port later = [] ∧
      ∀ event, (port, event) ∉ (gone.acts settings later).2.captured) ∧
    ∀ d, b.dispatch.1 = some d → ∃ entry, b.ports.lookup d.port = some entry ∧
      entry.owner ≠ system ∧ b.handlers.lookup entry.owner = some d.handler ∧
      ((∀ action ∈ meanwhile, action.waits = false) →
        let now := (b.dispatch.2.acts settings meanwhile).2
        now.owns entry.owner d.port = true ∧ now.handlers.lookup entry.owner = some d.handler) := by
  intro b gone
  have hstart : ({} : Bus η).nextId.toNat = 1 := rfl
  have hlength : (({} : Bus η).acts settings first).1.length +
      ((b.act settings removal).1.length + (gone.acts settings later).1.length) <
        UInt32.size - 1 := by
    rw [acts_append, List.length_append, Bus.acts, List.length_append] at hspare
    exact hspare
  have hfirst : ({} : Bus η).Evolves (({} : Bus η).acts settings first).1 b :=
    consistent_empty.acts settings first (by rw [hstart]; omega)
  have hremoval : b.Evolves (b.act settings removal).1 gone :=
    hfirst.consistent.act settings removal (by rw [hfirst.nextId_eq, hstart]; omega)
  refine ⟨fun hremoves => ?_, fun d hd => ?_⟩
  · have hgone : gone.Gone port := hfirst.consistent.gone_of_removes settings hremoves
    have hroom : gone.nextId.toNat + (gone.acts settings later).1.length < UInt32.size := by
      rw [hremoval.nextId_eq, hfirst.nextId_eq, hstart]
      omega
    have hlater := hremoval.consistent.acts settings later hroom
    exact ⟨hgone.handovers hremoval.consistent settings later hroom,
      (hgone.evolves hlater).not_captured hlater.consistent⟩
  · have haddressed : b.Addressed :=
      addressed_empty.acts consistent_empty settings first (by rw [hstart]; omega)
    obtain ⟨entry, hlook, howner, hhandler⟩ := haddressed.dispatch_called hd
    refine ⟨entry, hlook, howner, hhandler, fun hwaits => ?_⟩
    obtain ⟨queue, captured, htaken⟩ := b.dispatch_rest
    have hrole : b.dispatch.2.role? d.port = some (entry.owner, entry.direction) := by
      rw [htaken]
      exact role?_eq hlook
    obtain ⟨hnow, hstays⟩ := acts_meanwhile settings b.dispatch.2 d.port hwaits
    obtain ⟨entry', hlook', heq⟩ := lookup_of_role? (hstays _ hrole)
    refine ⟨owns_iff.mpr ⟨entry', hlook', congrArg Prod.fst heq⟩, ?_⟩
    rw [hnow, htaken]
    exact hhandler

/-- Two batches are queued for a port. One is handed over, and then the port is removed. -/
theorem no_delivery_after_removal_queued :
    let first : List (Action String) := [.addSource "keys", .openClient "reader",
      .setHandler ⟨2⟩ "on", .registerPort ⟨2⟩ "in" .input .connectable, .connect ⟨2⟩ ⟨3⟩ ⟨"1"⟩,
      .inject ⟨"1"⟩ [[0xF8]], .dispatch, .inject ⟨"1"⟩ [[0xFE]]]
    let later : List (Action String) :=
      [.dispatch, .addSource "pads", .inject ⟨"1"⟩ [[0xFA]], .dispatch]
    let removal : Action String := .unregisterPort ⟨2⟩ ⟨3⟩
    let b := (({} : Bus String).acts {} first).2
    let gone := (b.act {} removal).2
    (({} : Bus String).acts {} (first ++ removal :: later)).1.length < UInt32.size - 1 ∧
      b.Removes ⟨3⟩ removal ∧ gone.queue ≠ [] ∧ gone.handovers {} ⟨3⟩ later = [] ∧
      ∃ entry, b.ports.lookup ⟨3⟩ = some entry ∧
        b.handlers.lookup entry.owner = some "on" := by
  intro first later removal b gone
  have hspare : (({} : Bus String).acts {} (first ++ removal :: later)).1.length <
      UInt32.size - 1 := by decide +kernel
  have hremoves : b.Removes ⟨3⟩ removal := ⟨rfl, by decide +kernel⟩
  have hcalled : b.dispatch.1 = some ⟨"on", ⟨3⟩, [[0xFE]]⟩ := by decide +kernel
  have hrun := no_delivery_after_removal {} first later [] removal ⟨3⟩ hspare
  obtain ⟨entry, hlook, -, hhandler, -⟩ := hrun.2 _ hcalled
  exact ⟨hspare, hremoves, by decide +kernel, (hrun.1 hremoves).1, entry, hlook, hhandler⟩

/-- A hardware port stays when the system client is to be closed, and a port of a client stays when
it is removed as hardware: what is on its way to it arrives. -/
theorem no_removal_without_owner :
    let hardware := (({} : Bus String).acts {} [.addDestination "synth", .openClient "writer",
      .registerPort ⟨2⟩ "out" .output .connectable, .connect ⟨2⟩ ⟨3⟩ ⟨"1"⟩,
      .transmit ⟨2⟩ ⟨3⟩ [0xF8] (.ofCapacity 8), .drain ⟨2⟩]).2
    let client := (({} : Bus String).acts {} [.addSource "keys", .openClient "reader",
      .setHandler ⟨2⟩ "on", .registerPort ⟨2⟩ "in" .input .connectable, .connect ⟨2⟩ ⟨3⟩ ⟨"1"⟩,
      .inject ⟨"1"⟩ [[0xF8]]]).2
    (hardware.owns system ⟨1⟩ = true ∧
      (⟨1⟩, [0xF8]) ∈ ((hardware.act {} (.closeClient system)).2.acts {} [.dispatch]).2.captured) ∧
    (client.act {} (.removeSystemPort ⟨"3"⟩)).2.handovers {} ⟨3⟩ [.dispatch] ≠ [] := by
  decide +kernel

end Bus

end PatchBay
