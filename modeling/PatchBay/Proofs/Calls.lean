import PatchBay.Proofs.Consistency
import PatchBay.Proofs.Transport

/-!
# What a call does to a bus

Each call of a client either leaves the bus alone or makes one change to its tables. A call that
names a port as the client's own makes no change unless the client owns the port. To the ports and
the subscriptions an action can do no more than three things: it keeps the ports that are there, it
adds a subscription, or it removes ports with the subscriptions that they are part of.
-/

namespace PatchBay

namespace Bus

variable {η : Type} {b after : Bus η} {client : ClientId} {port : PortId}

/-! ## Ports of a client -/

theorem owns_of_ownPort {entry : Port} (h : b.ownPort client port = .ok entry) :
    b.owns client port = true := by
  obtain ⟨hlook, howner⟩ := lookup_of_ownPort h
  exact owns_iff.mpr ⟨entry, hlook, howner⟩

theorem role?_of_owns (h : b.owns client port = true) : ∃ r, b.role? port = some r := by
  obtain ⟨entry, hlook, -⟩ := owns_iff.mp h
  exact ⟨_, role?_eq hlook⟩

theorem role?_of_mem_portsOf (hp : port ∈ b.portsOf client) : ∃ r, b.role? port = some r := by
  obtain ⟨p, hmem, rfl⟩ := List.mem_map.mp hp
  cases hlook : b.ports.lookup p.1 with
  | none =>
    have hnone := List.lookup_eq_none_iff.mp hlook p (List.mem_of_mem_filter hmem)
    simp at hnone
  | some found => exact ⟨_, role?_eq hlook⟩

theorem ownPort_foreign (h : b.owns client port = false) :
    b.ownPort client port = .error .unknownPort := by
  cases hown : b.ownPort client port with
  | ok entry =>
    rw [owns_of_ownPort hown] at h
    cases h
  | error err =>
    unfold ownPort at hown
    split at hown
    · split at hown
      · cases hown
      · cases hown
        rfl
    · cases hown
      rfl

theorem lookup_of_nodup {κ β : Type} [BEq κ] [LawfulBEq κ] {l : List (κ × β)} {key : κ} {value : β}
    (hnodup : (l.map (·.1)).Nodup) (hmem : (key, value) ∈ l) : l.lookup key = some value := by
  induction l with
  | nil => cases hmem
  | cons x l ih =>
    obtain ⟨k, v⟩ := x
    obtain ⟨hnew, hrest⟩ := List.nodup_cons.mp hnodup
    rw [List.lookup_cons]
    rcases List.mem_cons.mp hmem with heq | hlater
    · cases heq
      rw [beq_self_eq_true]
    · have hne : (key == k) = false := by
        refine beq_false_of_ne fun heq => hnew ?_
        rw [← heq]
        exact List.mem_map_of_mem (f := (·.1)) hlater
      rw [hne]
      exact ih hrest hlater

/-- An entry is found under its handle. -/
theorem Consistent.lookup_of_mem (h : b.Consistent) {entry : Port}
    (hmem : (port, entry) ∈ b.ports) : b.ports.lookup port = some entry := by
  have hnumbers : ((b.ports.map (·.1)).map (·.number)).Nodup := by
    rw [List.map_map]
    exact (List.nodup_append.mp h.handles_nodup).2.1
  exact lookup_of_nodup hnumbers.of_map hmem

theorem Consistent.mem_portsOf_iff (h : b.Consistent) :
    port ∈ b.portsOf client ↔ b.owns client port = true := by
  rw [owns_iff]
  constructor
  · intro hmem
    obtain ⟨⟨p, entry⟩, hfiltered, rfl⟩ := List.mem_map.mp hmem
    obtain ⟨hmem, howner⟩ := List.mem_filter.mp hfiltered
    exact ⟨entry, h.lookup_of_mem hmem, of_decide_eq_true howner⟩
  · rintro ⟨entry, hlook, howner⟩
    exact List.mem_map.mpr
      ⟨(port, entry), List.mem_filter.mpr ⟨mem_of_lookup hlook, decide_eq_true howner⟩, rfl⟩

/-! ## Calls that remove ports -/

theorem removePorts_rest (ports : List PortId) :
    (ports.foldl removePort b).queue = b.queue ∧ (ports.foldl removePort b).outbox = b.outbox ∧
      (ports.foldl removePort b).dispatching = b.dispatching ∧
      (ports.foldl removePort b).nextId = b.nextId := by
  rw [removePorts_eq]
  exact ⟨rfl, rfl, rfl, rfl⟩

theorem removePorts_role? (b : Bus η) (ports : List PortId) (port : PortId) :
    (ports.foldl removePort b).role? port = if port ∈ ports then none else b.role? port := by
  rw [removePorts_eq, role?]
  dsimp only
  rw [lookup_filter b.ports (fun p => decide (p ∉ ports))]
  by_cases hmem : port ∈ ports
  · simp [hmem]
  · simp [hmem, role?]

/-! ## Calls that change subscriptions or names -/

/-- A call that connects leaves the bus as it is, or adds a subscription of the client's port, to a
destination that is there. -/
theorem connect_cases (b : Bus η) (client : ClientId) (port : PortId) (peer : Address) :
    (b.connect client port peer).2 = b ∨
      ∃ s, b.owns client port = true ∧ (s.1 = port ∨ s.2 = port) ∧ s ∉ b.subscriptions ∧
        (∃ r, b.role? s.2 = some r) ∧
        (b.connect client port peer).2 = { b with subscriptions := b.subscriptions ++ [s] } := by
  unfold connect
  split
  · exact .inl rfl
  rename_i peer' _
  cases hown : b.ownPort client port with
  | error err => exact .inl rfl
  | ok own =>
    dsimp only
    split
    · exact .inl rfl
    rename_i other hother
    split
    · exact .inl rfl
    dsimp only
    split
    · exact .inl rfl
    · rename_i hnew
      have hends : ((subscription own.direction port peer').1 = port ∨
            (subscription own.direction port peer').2 = port) ∧
          ∃ r, b.role? (subscription own.direction port peer').2 = some r := by
        cases own.direction with
        | input => exact ⟨.inr rfl, _, role?_eq (lookup_of_ownPort hown).1⟩
        | output => exact ⟨.inl rfl, _, role?_eq hother⟩
      exact .inr ⟨_, owns_of_ownPort hown, hends.1, hnew, hends.2, rfl⟩

/-- A call that renames leaves the bus as it is, or changes the name of the client's port. -/
theorem renamePort_cases (b : Bus η) (client : ClientId) (port : PortId) (name : String) :
    (b.renamePort client port name).2 = b ∨ b.owns client port = true ∧
      (b.renamePort client port name).2 = { b with
        ports := b.ports.map fun (p, entry) =>
          if p = port then (p, { entry with name }) else (p, entry) } := by
  unfold renamePort
  cases hown : b.ownPort client port with
  | error err => exact .inl rfl
  | ok own => exact .inr ⟨owns_of_ownPort hown, rfl⟩

/-- A port that is renamed stays what it was. -/
theorem role?_renamePort (b : Bus η) (client : ClientId) (port : PortId) (name : String)
    (p : PortId) : (b.renamePort client port name).2.role? p = b.role? p := by
  rcases b.renamePort_cases client port name with hsame | ⟨-, hnamed⟩
  · rw [hsame]
  · rw [hnamed]
    refine role?_map (fun q => ?_) (fun q => ?_) b p
    · by_cases hq : q.1 = port <;> simp [hq]
    · by_cases hq : q.1 = port <;> simp [hq]

/-! ## Calls that move events -/

/-- A call that transmits fails and leaves the bus as it is, or puts the event into the client's
outbox once for each destination. -/
theorem transmit_cases (b : Bus η) (client : ClientId) (source : PortId) (bytes : Bytes)
    (encoder : Encoder) :
    (∃ err encoder', b.transmit client source bytes encoder = (.error err, encoder', b)) ∨
      ∃ n encoder', b.transmit client source bytes encoder =
          (.ok n, encoder', { b with
            outbox := b.outbox ++
              (b.destinations source).map fun d => ⟨client, d, encoder'.event⟩ }) := by
  unfold Bus.transmit
  cases hown : b.ownPort client source with
  | error err => exact .inl ⟨_, _, rfl⟩
  | ok own =>
    by_cases hdirection : own.direction = .output
    · cases hencode : encoder.encodeFor bytes with
      | mk result encoder' =>
        cases result with
        | error err => exact .inl ⟨err, encoder', by simp [hdirection]⟩
        | ok n => exact .inr ⟨n, encoder', by simp [hdirection]⟩
    · exact .inl ⟨Fault.notAnOutput.toError, encoder, by simp [hdirection]⟩

theorem enqueue_rest (b : Bus η) (batches : List Batch) :
    ∃ queue, (b.enqueue batches).2 = { b with queue } := by
  unfold enqueue
  split
  · exact ⟨_, rfl⟩
  · exact ⟨b.queue, rfl⟩

/-- A call that drains takes the client's events out of the outbox. -/
theorem drain_rest (b : Bus η) (client : ClientId) :
    ∃ queue, (b.drain client).2 =
      { b with outbox := b.outbox.filter (·.sender ≠ client), queue } :=
  enqueue_rest _ _

theorem inject_rest (b : Bus η) (source : Address) (events : List Bytes) :
    ∃ queue, (b.inject source events).2 = { b with queue } := by
  unfold inject
  split
  · exact ⟨b.queue, rfl⟩
  split
  · exact ⟨b.queue, rfl⟩
  · exact enqueue_rest _ _

theorem dispatch_rest (b : Bus η) :
    ∃ queue captured, b.dispatch.2 = { b with queue, captured } := by
  unfold dispatch
  split
  · exact ⟨b.queue, b.captured, rfl⟩
  · rename_i batch rest _
    obtain ⟨events, hafter, -⟩ := deliver_captured { b with queue := rest } batch
    exact ⟨rest, _, hafter⟩

/-- What neither moves events nor removes ports changes none of the tables that events are in. -/
theorem act_quiet (b : Bus η) (settings : Settings) (action : Action η)
    (hquiet : match action with
      | .closeClient _ | .unregisterPort .. | .removeSystemPort _ | .transmit .. | .drain _
      | .inject .. | .dispatch | .halt => False
      | _ => True) :
    (b.act settings action).2.dispatching = b.dispatching ∧
      (b.act settings action).2.queue = b.queue ∧
      (b.act settings action).2.outbox = b.outbox ∧
      (b.act settings action).2.captured = b.captured := by
  cases action with
  | openClient name =>
    simp only [act, driver, openClient]
    split <;> exact ⟨rfl, rfl, rfl, rfl⟩
  | setHandler client handler =>
    simp only [act, driver, setHandler]
    split <;> exact ⟨rfl, rfl, rfl, rfl⟩
  | registerPort client name direction kind =>
    simp only [act, driver, registerPort]
    split <;> exact ⟨rfl, rfl, rfl, rfl⟩
  | renamePort client port name =>
    simp only [act, driver, renamePort]
    repeat' split
    all_goals exact ⟨rfl, rfl, rfl, rfl⟩
  | connect client port peer =>
    simp only [act, driver, connect]
    repeat' split
    all_goals exact ⟨rfl, rfl, rfl, rfl⟩
  | disconnect client port =>
    simp only [act, driver, disconnect]
    split <;> exact ⟨rfl, rfl, rfl, rfl⟩
  | addSource | addDestination | setAvailable => exact ⟨rfl, rfl, rfl, rfl⟩
  | closeClient | unregisterPort | removeSystemPort | transmit | drain | inject | dispatch | halt =>
    exact hquiet.elim

/-! ## Ports and subscriptions -/

/-- What an action does to the ports and the subscriptions of a bus. -/
inductive Rearranges (b after : Bus η) : Prop where
  /-- Ports may be added, and subscriptions dropped. -/
  | keeps (hroles : ∀ p r, b.role? p = some r → after.role? p = some r)
      (hsubs : after.subscriptions.Sublist b.subscriptions)
  /-- A source is subscribed to a destination that is there. -/
  | joins (s : PortId × PortId) (hnew : s ∉ b.subscriptions) (hthere : ∃ r, b.role? s.2 = some r)
      (hports : after.ports = b.ports) (hsubs : after.subscriptions = b.subscriptions ++ [s])
  /-- Ports are removed, with their subscriptions. -/
  | removes (gone : List PortId)
      (hroles : ∀ p, after.role? p = if p ∈ gone then none else b.role? p)
      (hsubs : after.subscriptions = b.subscriptions.filter fun s => s.1 ∉ gone ∧ s.2 ∉ gone)

theorem Rearranges.same (hports : after.ports = b.ports)
    (hsubs : after.subscriptions = b.subscriptions) : b.Rearranges after := by
  refine .keeps (fun p r hr => ?_) (hsubs ▸ List.Sublist.refl _)
  rwa [role?, hports]

theorem unregisterPort_rearranges (b : Bus η) (client : ClientId) (port : PortId) :
    b.Rearranges (b.unregisterPort client port) := by
  unfold unregisterPort
  split
  · refine .removes [port] (removePorts_role? b [port]) ?_
    exact congrArg subscriptions (removePorts_eq b [port])
  · exact .same rfl rfl

/-- A step. -/
theorem act_rearranges (settings : Settings) (b : Bus η) (action : Action η) :
    b.Rearranges (b.act settings action).2 := by
  cases action with
  | openClient name =>
    simp only [act, driver, openClient]
    split <;> exact .same rfl rfl
  | closeClient client =>
    simp only [act, driver, closeClient]
    split
    · exact .same rfl rfl
    · refine .removes (b.portsOf client) (removePorts_role? b (b.portsOf client)) ?_
      exact congrArg subscriptions (removePorts_eq b (b.portsOf client))
  | setHandler client handler =>
    simp only [act, driver, setHandler]
    split <;> exact .same rfl rfl
  | registerPort client name direction kind =>
    simp only [act, driver, registerPort]
    split
    · exact .keeps (fun _ _ => role?_addPort) (List.Sublist.refl _)
    · exact .same rfl rfl
  | unregisterPort client port => exact b.unregisterPort_rearranges client port
  | renamePort client port name =>
    simp only [act, driver]
    split
    · refine .keeps (fun p r hr => ?_) ?_
      · rwa [role?_renamePort]
      · rcases b.renamePort_cases client port name with hsame | ⟨-, hnamed⟩
        · rw [hsame]
        · rw [hnamed]
    · exact .same rfl rfl
  | connect client port peer =>
    change b.Rearranges (b.connect client port peer).2
    rcases b.connect_cases client port peer with hsame | ⟨s, -, -, hnew, hthere, hadded⟩
    · rw [hsame]
      exact .same rfl rfl
    · rw [hadded]
      exact .joins s hnew hthere rfl rfl
  | disconnect client port =>
    simp only [act, driver, disconnect]
    split
    · exact .keeps (fun _ _ => id) List.filter_sublist
    · exact .same rfl rfl
  | transmit client port bytes encoder =>
    change b.Rearranges (b.transmit client port bytes encoder).2.2
    rcases b.transmit_cases client port bytes encoder with ⟨_, _, hsent⟩ | ⟨_, _, hsent⟩
    · rw [hsent]
      exact .same rfl rfl
    · rw [hsent]
      exact .same rfl rfl
  | drain client =>
    change b.Rearranges (b.drain client).2
    obtain ⟨queue, hdrained⟩ := b.drain_rest client
    rw [hdrained]
    exact .same rfl rfl
  | addSource name => exact .keeps (fun _ _ => role?_addPort) (List.Sublist.refl _)
  | addDestination name => exact .keeps (fun _ _ => role?_addPort) (List.Sublist.refl _)
  | removeSystemPort port =>
    simp only [act, removeSystemPort]
    split
    · exact .same rfl rfl
    · exact b.unregisterPort_rearranges system _
  | inject source events =>
    change b.Rearranges (b.inject source events).2
    obtain ⟨queue, hqueued⟩ := b.inject_rest source events
    rw [hqueued]
    exact .same rfl rfl
  | setAvailable available => exact .same rfl rfl
  | dispatch =>
    change b.Rearranges b.dispatch.2
    obtain ⟨queue, captured, htaken⟩ := b.dispatch_rest
    rw [htaken]
    exact .same rfl rfl
  | halt => exact .same rfl rfl

/-- A port stays what it is as long as it is there. -/
theorem Rearranges.role?_stays (h : b.Rearranges after) {r : ClientId × Direction}
    (hr : b.role? port = some r) (hthere : (after.role? port).isSome) :
    after.role? port = some r := by
  cases h with
  | keeps hroles hsubs => exact hroles port r hr
  | joins s hnew hto hports hsubs => rwa [role?, hports]
  | removes gone hroles hsubs =>
    rw [hroles] at hthere ⊢
    split at hthere
    · cases hthere
    · rename_i hnot
      rwa [if_neg hnot]

end Bus

end PatchBay
