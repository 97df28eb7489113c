import PatchBay.Proofs.Tables

/-!
# A bus stays consistent

Whatever is done to a bus, in whatever order and with whatever handles and addresses, and whenever
its dispatcher gets to run, it stays consistent.
-/

namespace PatchBay

/-! ## Addresses -/

theorem Radix.digits?_concat (base acc : Nat) (cs : List Char) (c : Char) :
    digits? base acc (cs ++ [c]) = (digits? base acc cs).bind fun n =>
      ((digit? c).filter (· < base)).map (base * n + ·) := by
  induction cs generalizing acc with
  | nil => cases h : (digit? c).filter (· < base) <;> simp [digits?, h]
  | cons first cs ih =>
    rw [List.cons_append, digits?, digits?]
    cases (digit? first).filter (· < base) with
    | none => rfl
    | some d => exact ih _

theorem Radix.digit?_digitChar {n : Nat} (h : n < 10) : digit? n.digitChar = some n := by
  revert n
  decide

/-- Reads back what was written. -/
theorem Radix.digits?_toDigits (n : Nat) : digits? 10 0 (Nat.toDigits 10 n) = some n := by
  induction n using Nat.strongRecOn with
  | ind n ih =>
    rw [Nat.toDigits_eq_if (by decide)]
    split
    · rename_i hlt
      simp [digits?, digit?_digitChar hlt, hlt]
    · rename_i hge
      have hmod : n % 10 < 10 := Nat.mod_lt n (by decide)
      rw [digits?_concat, ih (n / 10) (by omega), digit?_digitChar hmod]
      simp only [Option.bind_some, Option.filter_some, decide_eq_true hmod, if_pos, Option.map_some,
        Nat.div_add_mod]

theorem Radix.number?_toDigits (n : Nat) : number? 10 (Nat.toDigits 10 n) = some n := by
  have hread := digits?_toDigits n
  unfold number?
  split
  · rename_i rest heq
    -- a written number does not begin with a sign
    rw [heq] at hread
    simp [digits?, digit?] at hread
  · rw [unsigned?, if_neg, hread]
    have hlen := Nat.length_toDigits_pos (b := 10) (n := n)
    intro hempty
    rw [List.isEmpty_iff.mp hempty] at hlen
    cases hlen

namespace Bus

variable {η : Type} {b : Bus η} {port : PortId}

/-- The address under which a port is listed leads back to the port. -/
theorem portAt?_address (port : PortId) : portAt? (address port) = some port := by
  have htext : (address port).text.toList = Nat.toDigits 10 port.number.toNat :=
    String.toList_ofList
  have hlt := port.number.toNat_lt
  rw [portAt?, Decimal.atMost?, htext, Radix.number?_toDigits]
  have hle : port.number.toNat ≤ Nat.pow 2 32 - 1 := by
    have hsize : Nat.pow 2 32 = 4294967296 := rfl
    omega
  simp only [Option.filter_some, decide_eq_true hle, if_pos, Option.map_some, UInt32.ofNat_toNat]

/-! ## Subscriptions -/

theorem Consistent.connect (h : b.Consistent) (client : ClientId) (port : PortId)
    (peer : Address) : b.Evolves [] (b.connect client port peer).2 := by
  unfold Bus.connect
  split
  · exact .refl h
  rename_i peer _
  split
  · exact .refl h
  rename_i own hown
  obtain ⟨hlook, -⟩ := lookup_of_ownPort hown
  split
  · exact .refl h
  rename_i other hother
  split
  · exact .refl h
  rename_i hdirection
  have hother' : b.role? peer = some (other.owner, own.direction.peer) := by
    rw [role?_eq hother, of_not_not hdirection]
  have hown' := role?_eq hlook
  dsimp only
  split
  · exact .refl h
  · rename_i hnew
    have hends : (∃ owner, b.role? (subscription own.direction port peer).1 =
          some (owner, .output)) ∧
        ∃ owner, b.role? (subscription own.direction port peer).2 = some (owner, .input) := by
      revert hother' hown'
      cases own.direction with
      | input => exact fun hother' hown' => ⟨⟨_, hother'⟩, ⟨_, hown'⟩⟩
      | output => exact fun hother' hown' => ⟨⟨_, hown'⟩, ⟨_, hother'⟩⟩
    refine .same ?_ rfl rfl rfl
    exact { h with
      source_output := by
        intro s hs
        rcases List.mem_append.mp hs with hold | hs
        · exact h.source_output s hold
        · rw [List.mem_singleton.mp hs]
          exact hends.1
      target_input := by
        intro s hs
        rcases List.mem_append.mp hs with hold | hs
        · exact h.target_input s hold
        · rw [List.mem_singleton.mp hs]
          exact hends.2
      subscriptions_nodup := by
        rw [List.nodup_append]
        refine ⟨h.subscriptions_nodup, List.nodup_singleton _, ?_⟩
        rintro s hs t ht rfl
        exact hnew (List.mem_singleton.mp ht ▸ hs) }

theorem Consistent.disconnect (h : b.Consistent) (client : ClientId) (port : PortId) :
    b.Evolves [] (b.disconnect client port) := by
  unfold Bus.disconnect
  split
  · refine .same ?_ rfl rfl rfl
    exact { h with
      source_output := fun s hs => h.source_output s (List.mem_of_mem_filter hs)
      target_input := fun s hs => h.target_input s (List.mem_of_mem_filter hs)
      subscriptions_nodup := h.subscriptions_nodup.filter _ }
  · exact .refl h

/-! ## Events -/

theorem Consistent.transmit (h : b.Consistent) (client : ClientId) (port : PortId) (bytes : Bytes)
    (encoder : Encoder) : b.Evolves [] (b.transmit client port bytes encoder).2.2 := by
  unfold Bus.transmit
  split
  · exact .refl h
  rename_i own hown
  obtain ⟨hlook, howner⟩ := lookup_of_ownPort hown
  split
  · exact .refl h
  split
  · exact .refl h
  · refine .same ?_ rfl rfl rfl
    exact { h with
      sender_open := by
        intro p hp
        rcases List.mem_append.mp hp with hold | hnew
        · exact h.sender_open p hold
        · obtain ⟨d, -, rfl⟩ := List.mem_map.mp hnew
          exact howner ▸ h.owner_open _ (mem_of_lookup hlook)
      outbox_aims := by
        intro p hp
        rcases List.mem_append.mp hp with hold | hnew
        · exact h.outbox_aims p hold
        · obtain ⟨d, hd, rfl⟩ := List.mem_map.mp hnew
          exact h.target_aims hd }

theorem Consistent.enqueue (h : b.Consistent) {batches : List Batch}
    (haims : ∀ batch ∈ batches, b.Aims batch.port) : b.Evolves [] (b.enqueue batches).2 := by
  unfold Bus.enqueue
  split
  · refine .same ?_ rfl rfl rfl
    exact { h with
      queue_aims := fun batch hmem =>
        (List.mem_append.mp hmem).elim (h.queue_aims batch) (haims batch) }
  · exact .refl h

theorem batchFor?_port {events : List Bytes} {batch : Batch}
    (h : b.batchFor? port events = some batch) : batch.port = port := by
  obtain ⟨entry, -, rfl⟩ := Option.map_eq_some_iff.mp h
  rfl

theorem mem_runs {pending : List Pending} {r : PortId × List Bytes} (hr : r ∈ runs pending) :
    ∃ p ∈ pending, p.destination = r.1 := by
  induction pending generalizing r with
  | nil => cases hr
  | cons p pending ih =>
    have hlater : ∀ q ∈ runs pending, ∃ x ∈ p :: pending, x.destination = q.1 := fun q hq =>
      (ih hq).imp fun x hx => ⟨List.mem_cons_of_mem _ hx.1, hx.2⟩
    unfold runs at hr
    split at hr
    · rw [List.mem_singleton.mp hr]
      exact ⟨p, List.mem_cons_self, rfl⟩
    rename_i d events more hruns
    split at hr
    · rename_i hsame
      rcases List.mem_cons.mp hr with rfl | hmore
      · exact ⟨p, List.mem_cons_self, hsame.symm⟩
      · exact hlater r (hruns ▸ List.mem_cons_of_mem _ hmore)
    · rcases List.mem_cons.mp hr with rfl | hold
      · exact ⟨p, List.mem_cons_self, rfl⟩
      · exact hlater r (hruns ▸ hold)

theorem Consistent.drain (h : b.Consistent) (client : ClientId) :
    b.Evolves [] (b.drain client).2 := by
  unfold Bus.drain
  have hrest : b.Evolves [] { b with outbox := b.outbox.filter (·.sender ≠ client) } := by
    refine .same ?_ rfl rfl rfl
    exact { h with
      sender_open := fun p hp => h.sender_open p (List.mem_of_mem_filter hp)
      outbox_aims := fun p hp => h.outbox_aims p (List.mem_of_mem_filter hp) }
  refine hrest.trans (hrest.consistent.enqueue fun batch hmem => ?_)
  obtain ⟨r, hr, hbatch⟩ := List.mem_filterMap.mp hmem
  obtain ⟨p, hp, hdestination⟩ := mem_runs hr
  rw [batchFor?_port hbatch, ← hdestination]
  exact h.outbox_aims p (List.mem_of_mem_filter hp)

theorem Consistent.inject (h : b.Consistent) (source : Address) (events : List Bytes) :
    b.Evolves [] (b.inject source events).2 := by
  unfold Bus.inject
  split
  · exact .refl h
  split
  · exact .refl h
  · refine h.enqueue fun batch hmem => ?_
    obtain ⟨d, hd, hbatch⟩ := List.mem_filterMap.mp hmem
    rw [batchFor?_port hbatch]
    exact h.target_aims hd

theorem Consistent.deliver (h : b.Consistent) {batch : Batch} (haims : b.Aims batch.port) :
    b.Evolves [] (b.deliver batch).2 := by
  unfold Bus.deliver
  split
  · exact .refl h
  rename_i entry hlook
  split
  · rename_i howner
    have hrole : b.role? batch.port = some (system, .input) := by
      have heq := role?_eq hlook
      rw [howner] at heq
      cases hdirection : entry.direction with
      | input => rw [heq, hdirection]
      | output =>
        rw [hdirection] at heq
        exact absurd heq (haims.2 system)
    refine .same ?_ rfl rfl rfl
    exact { h with
      captured_input := by
        intro c hc
        rcases List.mem_append.mp hc with hold | hnew
        · exact h.captured_input c hold
        · obtain ⟨e, -, rfl⟩ := List.mem_map.mp hnew
          exact hrole }
  · exact .refl h

theorem Consistent.dispatch (h : b.Consistent) : b.Evolves [] b.dispatch.2 := by
  unfold Bus.dispatch
  split
  · exact .refl h
  · rename_i batch rest hqueue
    have hrest : b.Evolves [] { b with queue := rest } := by
      refine .same ?_ rfl rfl rfl
      exact { h with
        queue_aims := fun x hx => h.queue_aims x (hqueue ▸ List.mem_cons_of_mem _ hx) }
    exact hrest.trans (hrest.consistent.deliver
      (h.queue_aims batch (hqueue ▸ List.mem_cons_self)))

theorem Consistent.halt (h : b.Consistent) : b.Evolves [] b.halt := by
  refine .same ?_ rfl rfl rfl
  exact { h with queue_aims := nofun }

theorem Consistent.setAvailable (h : b.Consistent) (available : Bool) :
    b.Evolves [] (b.setAvailable available) :=
  .same { h with } rfl rfl rfl

/-! ## Any number of actions -/

/-- Something that is done to a bus, by a client, by the hardware or by the dispatcher. Clients,
ports and addresses need not be those of the bus. -/
inductive Action (η : Type) where
  | openClient (name : String)
  | closeClient (client : ClientId)
  | setHandler (client : ClientId) (handler : η)
  | registerPort (client : ClientId) (name : String) (direction : Direction) (kind : PortKind)
  | unregisterPort (client : ClientId) (port : PortId)
  | renamePort (client : ClientId) (port : PortId) (name : String)
  | connect (client : ClientId) (port : PortId) (peer : Address)
  | disconnect (client : ClientId) (port : PortId)
  | transmit (client : ClientId) (port : PortId) (bytes : Bytes) (encoder : Encoder)
  | drain (client : ClientId)
  | addSource (name : String)
  | addDestination (name : String)
  | removeSystemPort (port : Address)
  | inject (source : Address) (events : List Bytes)
  | setAvailable (available : Bool)
  | dispatch
  /-- A handler failed, and the dispatcher ended. -/
  | halt
deriving Repr

/-- The numbers of the handles that an action gave out, and the bus after it. -/
def act (settings : Settings) (b : Bus η) : Action η → List UInt32 × Bus η
  | .openClient name =>
    let r := (driver settings).openClient b name
    (r.1.toOption.toList.map (·.number), r.2)
  | .closeClient client => ([], (driver settings).closeClient b client)
  | .setHandler client handler => ([], ((driver settings).setHandler b client handler).2)
  | .registerPort client name direction kind =>
    let r := (driver settings).registerPort b client name direction kind
    (r.1.toOption.toList.map (·.number), r.2)
  | .unregisterPort client port => ([], (driver settings).unregisterPort b client port)
  | .renamePort client port name => ([], ((driver settings).renamePort b client port name).2)
  | .connect client port peer => ([], ((driver settings).connect b client port peer).2.2)
  | .disconnect client port => ([], (driver settings).disconnect b client port)
  | .transmit client port bytes encoder =>
    ([], ((driver settings).transmit b client port bytes encoder).2.2)
  | .drain client => ([], ((driver settings).drain b client).2)
  | .addSource name =>
    let r := b.addSource name
    ((portAt? r.1).toList.map (·.number), r.2)
  | .addDestination name =>
    let r := b.addDestination name
    ((portAt? r.1).toList.map (·.number), r.2)
  | .removeSystemPort port => ([], b.removeSystemPort port)
  | .inject source events => ([], (b.inject source events).2)
  | .setAvailable available => ([], b.setAvailable available)
  | .dispatch => ([], b.dispatch.2)
  | .halt => ([], b.halt)

/-- The numbers of the handles that some actions gave out in a row, and the bus after them. -/
def acts (settings : Settings) (b : Bus η) : List (Action η) → List UInt32 × Bus η
  | [] => ([], b)
  | action :: actions =>
    let r := b.act settings action
    let rest := r.2.acts settings actions
    (r.1 ++ rest.1, rest.2)

/-- A step. -/
theorem Consistent.act (h : b.Consistent) (settings : Settings) (action : Action η)
    (hspare : b.nextId.toNat + (b.act settings action).1.length < UInt32.size) :
    b.Evolves (b.act settings action).1 (b.act settings action).2 := by
  cases action with
  | openClient name =>
    simp only [Bus.act, driver, Bus.openClient] at hspare ⊢
    split
    · rename_i hopen
      rw [if_pos hopen] at hspare
      exact h.openClient hspare name
    · exact .refl h
  | closeClient client => exact h.closeClient client
  | setHandler client handler => exact h.setHandler client handler
  | registerPort client name direction kind =>
    simp only [Bus.act, driver, Bus.registerPort] at hspare ⊢
    split
    · rename_i howner
      rw [if_pos howner] at hspare
      exact h.addPort hspare howner
    · exact .refl h
  | unregisterPort client port => exact h.unregisterPort client port
  | renamePort client port name =>
    simp only [Bus.act, driver]
    split
    · exact h.renamePort client port name
    · exact .refl h
  | connect client port peer => exact h.connect client port peer
  | disconnect client port => exact h.disconnect client port
  | transmit client port bytes encoder => exact h.transmit client port bytes encoder
  | drain client => exact h.drain client
  | addSource name =>
    simp only [Bus.act, addSource, portAt?_address] at hspare ⊢
    exact h.addPort hspare h.system_open
  | addDestination name =>
    simp only [Bus.act, addDestination, portAt?_address] at hspare ⊢
    exact h.addPort hspare h.system_open
  | removeSystemPort port =>
    simp only [Bus.act, removeSystemPort]
    split
    · exact .refl h
    · exact h.unregisterPort system _
  | inject source events => exact h.inject source events
  | setAvailable available => exact h.setAvailable available
  | dispatch => exact h.dispatch
  | halt => exact h.halt

/-- A run. -/
theorem Consistent.acts (h : b.Consistent) (settings : Settings) (actions : List (Action η))
    (hspare : b.nextId.toNat + (b.acts settings actions).1.length < UInt32.size) :
    b.Evolves (b.acts settings actions).1 (b.acts settings actions).2 := by
  induction actions generalizing b with
  | nil => exact .refl h
  | cons action actions ih =>
    simp only [Bus.acts, List.length_append] at hspare ⊢
    have hstep := h.act settings action (by omega)
    refine hstep.trans (ih hstep.consistent ?_)
    rw [hstep.nextId_eq]
    omega

theorem acts_append (settings : Settings) (b : Bus η) (first later : List (Action η)) :
    b.acts settings (first ++ later) =
      ((b.acts settings first).1 ++ ((b.acts settings first).2.acts settings later).1,
        ((b.acts settings first).2.acts settings later).2) := by
  induction first generalizing b with
  | nil => rfl
  | cons action first ih => simp only [List.cons_append, acts, ih, List.append_assoc]

/-- **Nothing on a bus refers to something that is gone.** After any actions on a new bus that give
out fewer than `2 ^ 32 - 1` handles, the bus is consistent. No handle is given out twice, and what
is there under one of the handles given out by some time was there at that time. Each port is listed
under the name of a client that is there, and each destination of a source is there. -/
theorem acts_consistent (settings : Settings) (first later : List (Action η))
    (hspare : (({} : Bus η).acts settings (first ++ later)).1.length < UInt32.size - 1) :
    let before := (({} : Bus η).acts settings first).2
    let run := ({} : Bus η).acts settings (first ++ later)
    run.2.Consistent ∧
    (run.1.Nodup ∧ (∀ n ∈ run.1, 0 < n ∧ n < run.2.nextId) ∧ before.Precedes run.2) ∧
    (∀ p ∈ run.2.ports, ∃ name, run.2.clients.lookup p.2.owner = some name ∧
      run.2.fullName p.2 = name ++ ":" ++ p.2.name) ∧
    ∀ source, ∀ d ∈ run.2.destinations source, ∀ events, (run.2.batchFor? d events).isSome := by
  intro before run
  have hstart : ({} : Bus η).nextId.toNat = 1 := rfl
  have hrun : ({} : Bus η).Evolves run.1 run.2 :=
    consistent_empty.acts settings _ (by rw [hstart]; omega)
  refine ⟨hrun.consistent, ⟨hrun.nodup, fun n hn => ⟨?_, (hrun.between n hn).2⟩, ?_⟩, ?_, ?_⟩
  · have hfrom := (hrun.between n hn).1
    rw [UInt32.le_iff_toNat_le, hstart] at hfrom
    rw [UInt32.lt_iff_toNat_lt]
    exact hfrom
  · have hlength : (({} : Bus η).acts settings first).1.length +
        (before.acts settings later).1.length < UInt32.size - 1 := by
      rw [acts_append, List.length_append] at hspare
      exact hspare
    have hfirst : ({} : Bus η).Evolves (({} : Bus η).acts settings first).1 before :=
      consistent_empty.acts settings first (by rw [hstart]; omega)
    have hlater := hfirst.consistent.acts settings later (by rw [hfirst.nextId_eq, hstart]; omega)
    have hend : run.2 = (before.acts settings later).2 := by
      dsimp only [run]
      rw [acts_append]
    rw [hend]
    exact hlater.precedes
  · intro p hp
    obtain ⟨name, hname⟩ := Option.isSome_iff_exists.mp (hrun.consistent.owner_open p hp)
    exact ⟨name, hname, by rw [fullName, hname]; rfl⟩
  · intro source d hd events
    obtain ⟨s, hs, rfl⟩ := List.mem_map.mp hd
    obtain ⟨owner, hrole⟩ := hrun.consistent.target_input s (List.mem_of_mem_filter hs)
    obtain ⟨entry, hlook, -⟩ := lookup_of_role? hrole
    rw [batchFor?, hlook]
    rfl

/-- A client is closed with its port, and the next one gets a new handle. -/
theorem acts_consistent_reopened :
    let first : List (Action Unit) := [.addSource "keys", .openClient "reader",
      .registerPort ⟨2⟩ "in" .input .connectable, .connect ⟨2⟩ ⟨3⟩ ⟨"1"⟩]
    let later : List (Action Unit) := [.inject ⟨"1"⟩ [[0xF8]], .closeClient ⟨2⟩, .dispatch,
      .openClient "reader"]
    let run := ({} : Bus Unit).acts {} (first ++ later)
    run.1 = [1, 2, 3, 4] ∧ run.1.length < UInt32.size - 1 ∧ run.2.Consistent := by
  intro first later run
  have hgiven : run.1 = [1, 2, 3, 4] := by decide +kernel
  have hspare : run.1.length < UInt32.size - 1 := by
    rw [hgiven]
    decide
  exact ⟨hgiven, hspare, (acts_consistent {} first later hspare).1⟩

end Bus

end PatchBay
