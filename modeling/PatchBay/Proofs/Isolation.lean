import PatchBay.Proofs.Calls

/-!
# Clients do not touch what is not theirs

Every call takes the handles of a client and of a port, which may be anybody's. A call changes what
its client owns and nothing of another client, whoever shares subscriptions with whom; and a call
that names somebody else's port as its own is refused and changes nothing at all.
-/

namespace PatchBay

namespace Bus

variable {η : Type} {b : Bus η} {caller other : ClientId} {port : PortId}

/-! ## Calls -/

/-- The client that makes a call. The other actions are none of a client. -/
def Action.caller? : Action η → Option ClientId
  | .closeClient client | .setHandler client _ | .registerPort client _ _ _
  | .unregisterPort client _ | .renamePort client _ _ | .connect client _ _
  | .disconnect client _ | .transmit client _ _ _ | .drain client => some client
  | _ => none

/-- The buses that actions lead to. An action for which there is no handle left does not return. -/
inductive Reachable (settings : Settings) : Bus η → Prop where
  /-- A new bus. -/
  | new : Reachable settings {}
  /-- The bus after an action. -/
  | act {b : Bus η} (h : Reachable settings b) (action : Action η)
      (hspare : b.nextId.toNat + (b.act settings action).1.length < UInt32.size) :
      Reachable settings (b.act settings action).2

theorem Reachable.consistent {settings : Settings} (h : Reachable settings b) : b.Consistent := by
  induction h with
  | new => exact consistent_empty
  | act _ action hspare ih => exact (ih.act settings action hspare).consistent

theorem Reachable.acts {settings : Settings} (h : Reachable settings b) (actions : List (Action η))
    (hspare : b.nextId.toNat + (b.acts settings actions).1.length < UInt32.size) :
    Reachable settings (b.acts settings actions).2 := by
  induction actions generalizing b with
  | nil => exact h
  | cons action actions ih =>
    simp only [Bus.acts, List.length_append] at hspare ⊢
    have hroom : b.nextId.toNat + (b.act settings action).1.length < UInt32.size := by omega
    refine ih (h.act action hroom) ?_
    rw [(h.consistent.act settings action hroom).nextId_eq]
    omega

/-- Whether neither end of a subscription is the client's own. -/
def foreign (b : Bus η) (client : ClientId) (s : PortId × PortId) : Bool :=
  !b.owns client s.1 && !b.owns client s.2

/-- What a call leaves alone: all that is another client's, what was captured, and every
subscription that is not one of the caller's ports. -/
structure Respects (b : Bus η) (caller other : ClientId) (after : Bus η) : Prop where
  ports : ∀ port entry, entry.owner = other →
    (after.ports.lookup port = some entry ↔ b.ports.lookup port = some entry)
  client : after.clients.lookup other = b.clients.lookup other
  handler : after.handlers.lookup other = b.handlers.lookup other
  outbox : after.outbox.filter (·.sender = other) = b.outbox.filter (·.sender = other)
  captured : after.captured = b.captured
  subscriptions : after.subscriptions.filter (b.foreign caller) =
    b.subscriptions.filter (b.foreign caller)

theorem Respects.refl (b : Bus η) (caller other : ClientId) : b.Respects caller other b :=
  ⟨fun _ _ _ => .rfl, rfl, rfl, rfl, rfl, rfl⟩

/-! ## One call -/

theorem not_mem_of_foreign {gone : List PortId} (hown : ∀ p ∈ gone, b.owns caller p = true)
    {s : PortId × PortId} (hs : b.foreign caller s = true) : s.1 ∉ gone ∧ s.2 ∉ gone := by
  simp only [foreign, Bool.and_eq_true, Bool.not_eq_true'] at hs
  refine ⟨fun hmem => ?_, fun hmem => ?_⟩
  · rw [hown _ hmem] at hs
    cases hs.1
  · rw [hown _ hmem] at hs
    cases hs.2

/-- Ports of the caller are removed. What was captured is of the system client's ports. -/
theorem Consistent.respects_removePorts (h : b.Consistent) (hcaller : caller ≠ system)
    (hother : other ≠ caller) (gone : List PortId)
    (hown : ∀ p ∈ gone, b.owns caller p = true) :
    b.Respects caller other (gone.foldl Bus.removePort b) := by
  rw [removePorts_eq]
  refine ⟨fun p entry howner => ?_, rfl, rfl, rfl, ?_, ?_⟩
  · dsimp only
    rw [lookup_filter b.ports (fun p => decide (p ∉ gone))]
    by_cases hp : p ∈ gone
    · obtain ⟨found, hlook, hfound⟩ := owns_iff.mp (hown p hp)
      have hne : found ≠ entry := by
        rintro rfl
        exact hother (howner.symm.trans hfound)
      simp [hp, hlook, hne]
    · simp [hp]
  · rw [List.filter_eq_self]
    intro c hc
    refine decide_eq_true fun hmem => hcaller ?_
    obtain ⟨found, hlook, hfound⟩ := owns_iff.mp (hown c.1 hmem)
    have hrole := h.captured_input c hc
    rw [role?_eq hlook, hfound] at hrole
    exact congrArg Prod.fst (Option.some.inj hrole)
  · dsimp only
    rw [List.filter_filter]
    refine List.filter_congr fun s _ => ?_
    cases hs : b.foreign caller s
    · rfl
    · simp [not_mem_of_foreign hown hs]

theorem Consistent.respects_closeClient (h : b.Consistent) (hcaller : caller ≠ system)
    (hother : other ≠ caller) : b.Respects caller other (b.closeClient caller) := by
  have hremoved := h.respects_removePorts hcaller hother (b.portsOf caller)
    fun p hp => h.mem_portsOf_iff.mp hp
  rw [Bus.closeClient, if_neg hcaller]
  refine { hremoved with client := ?_, handler := ?_, outbox := ?_ }
  · rw [lookup_filter_ne, if_neg hother]
    exact hremoved.client
  · rw [lookup_filter_ne, if_neg hother]
    exact hremoved.handler
  · rw [← hremoved.outbox, List.filter_filter]
    refine List.filter_congr fun q _ => ?_
    by_cases hq : q.sender = other
    · simp [hq, hother]
    · simp [hq]

theorem Consistent.respects_unregisterPort (h : b.Consistent) (hcaller : caller ≠ system)
    (hother : other ≠ caller) (port : PortId) :
    b.Respects caller other (b.unregisterPort caller port) := by
  unfold Bus.unregisterPort
  split
  · rename_i howns
    exact h.respects_removePorts hcaller hother [port]
      fun p hp => List.mem_singleton.mp hp ▸ howns
  · exact .refl _ _ _

theorem respects_setHandler (hother : other ≠ caller) (handler : η) :
    b.Respects caller other (b.setHandler caller handler).2 := by
  unfold setHandler
  split
  · refine { Respects.refl b caller other with handler := ?_ }
    have hne : (other == caller) = false := beq_false_of_ne hother
    rw [List.lookup_append, lookup_filter_ne, if_neg hother, List.lookup_cons, hne]
    simp
  · exact .refl _ _ _

theorem respects_registerPort (hother : other ≠ caller) (name : String) (direction : Direction) :
    b.Respects caller other (b.registerPort caller name direction).2 := by
  unfold registerPort
  split
  · refine { Respects.refl b caller other with ports := fun p entry howner => ?_ }
    have hne : (⟨caller, name, direction⟩ : Port) ≠ entry := by
      rintro rfl
      exact hother howner.symm
    simp only [addPort, takeId]
    rw [List.lookup_append]
    cases hlook : b.ports.lookup p with
    | some found => rfl
    | none =>
      rw [List.lookup_cons]
      cases p == ⟨b.nextId⟩ <;> simp [hne]
  · exact .refl _ _ _

/-- Of a list of entries, those under one key are changed and the others are not. -/
theorem lookup_map_ne {κ β : Type} [DecidableEq κ] (l : List (κ × β)) {changed key : κ}
    (f : β → β) (hne : key ≠ changed) :
    (l.map fun (k, v) => if k = changed then (k, f v) else (k, v)).lookup key = l.lookup key := by
  induction l with
  | nil => rfl
  | cons x l ih =>
    obtain ⟨k, v⟩ := x
    rw [List.map_cons, List.lookup_cons]
    by_cases hk : k = changed
    · simp [hk, List.lookup_cons, beq_false_of_ne hne, ih]
    · simp [hk, List.lookup_cons, ih]

theorem respects_renamePort (hother : other ≠ caller) (port : PortId) (name : String) :
    b.Respects caller other (b.renamePort caller port name).2 := by
  have hrole := b.role?_renamePort caller port name port
  rcases b.renamePort_cases caller port name with hsame | ⟨howns, hnamed⟩
  · rw [hsame]
    exact .refl _ _ _
  rw [hnamed] at hrole ⊢
  refine { Respects.refl b caller other with ports := fun p entry howner => ?_ }
  by_cases hp : p = port
  · -- the port that is renamed has the caller as its owner, before and after
    obtain ⟨found, hlook, hfound⟩ := owns_iff.mp howns
    have hnot : ∀ {c : Bus η}, c.role? port = b.role? port → c.ports.lookup p ≠ some entry := by
      intro c hsame heq
      rw [← hp, role?_eq heq, hp, role?_eq hlook] at hsame
      exact hother (howner.symm.trans ((congrArg Prod.fst (Option.some.inj hsame)).trans hfound))
    exact iff_of_false (hnot hrole) (hnot rfl)
  · rw [lookup_map_ne b.ports (fun entry => { entry with name }) hp]

theorem respects_connect (port : PortId) (peer : Address) :
    b.Respects caller other (b.connect caller port peer).2 := by
  rcases b.connect_cases caller port peer with hsame | ⟨s, howns, hend, -, -, hadded⟩
  · rw [hsame]
    exact .refl _ _ _
  · rw [hadded]
    refine { Respects.refl b caller other with subscriptions := ?_ }
    have hown : b.foreign caller s = false := by
      rcases hend with rfl | rfl <;> simp [foreign, howns]
    rw [List.filter_append, List.filter_cons_of_neg (by simp [hown]), List.filter_nil,
      List.append_nil]

theorem respects_disconnect (port : PortId) :
    b.Respects caller other (b.disconnect caller port) := by
  unfold disconnect
  split
  · rename_i howns
    refine { Respects.refl b caller other with subscriptions := ?_ }
    rw [List.filter_filter]
    refine List.filter_congr fun s _ => ?_
    cases hs : b.foreign caller s
    · rfl
    · have hown : ∀ p ∈ [port], b.owns caller p = true :=
        fun p hp => List.mem_singleton.mp hp ▸ howns
      simpa using not_mem_of_foreign hown hs
  · exact .refl _ _ _

theorem respects_transmit (hother : other ≠ caller) (port : PortId) (bytes : Bytes)
    (encoder : Encoder) :
    b.Respects caller other (b.transmit caller port bytes encoder).2.2 := by
  rcases b.transmit_cases caller port bytes encoder with ⟨_, _, hsame⟩ | ⟨n, encoder', hadded⟩
  · rw [hsame]
    exact .refl _ _ _
  · rw [hadded]
    refine { Respects.refl b caller other with outbox := ?_ }
    have hnone : ((b.destinations port).map fun d =>
        (⟨caller, d, encoder'.event⟩ : Pending)).filter (·.sender = other) = [] := by
      rw [List.filter_eq_nil_iff]
      intro q hq
      obtain ⟨d, -, rfl⟩ := List.mem_map.mp hq
      simpa using hother.symm
    rw [List.filter_append, hnone, List.append_nil]

theorem respects_drain (hother : other ≠ caller) :
    b.Respects caller other (b.drain caller).2 := by
  obtain ⟨queue, hdrained⟩ := b.drain_rest caller
  rw [hdrained]
  refine { Respects.refl b caller other with outbox := ?_ }
  rw [List.filter_filter]
  refine List.filter_congr fun q _ => ?_
  by_cases hq : q.sender = other
  · simp [hq, hother]
  · simp [hq]

/-! ## Any call -/

theorem Consistent.respects_call (h : b.Consistent) (settings : Settings) {call : Action η}
    (hcall : call.caller? = some caller) (hcaller : caller ≠ system) (hother : other ≠ caller) :
    b.Respects caller other (b.act settings call).2 := by
  cases call with
  | closeClient client =>
    cases hcall
    exact h.respects_closeClient hcaller hother
  | setHandler client handler =>
    cases hcall
    exact respects_setHandler hother handler
  | registerPort client name direction kind =>
    cases hcall
    exact respects_registerPort hother name direction
  | unregisterPort client port =>
    cases hcall
    exact h.respects_unregisterPort hcaller hother port
  | renamePort client port name =>
    cases hcall
    simp only [Bus.act, driver]
    split
    · exact respects_renamePort hother port name
    · exact .refl _ _ _
  | connect client port peer =>
    cases hcall
    exact respects_connect port peer
  | disconnect client port =>
    cases hcall
    exact respects_disconnect port
  | transmit client port bytes encoder =>
    cases hcall
    exact respects_transmit hother port bytes encoder
  | drain client =>
    cases hcall
    exact respects_drain hother
  | _ => cases hcall

/-- **Clients do not touch what is not theirs.** On a bus that actions lead to, a call by a client
other than the system client leaves alone the ports of every other client, with their names and
directions, its handler and its outbox, all that was captured, and every subscription of ports that
are not the caller's. A call that names a port as the caller's own that is not fails or does
nothing, and leaves the bus and the encoder as they were. -/
theorem calls_isolated (settings : Settings) (h : Reachable settings b) (call : Action η)
    (caller other : ClientId) (hcall : call.caller? = some caller) (hcaller : caller ≠ system)
    (hother : other ≠ caller) :
    b.Respects caller other (b.act settings call).2 ∧
    ∀ port, b.owns caller port = false →
      (driver settings).unregisterPort b caller port = b ∧
      (driver settings).disconnect b caller port = b ∧
      (∀ name, ∃ err, (driver settings).renamePort b caller port name = (.error err, b)) ∧
      (∀ peer, ∃ err, (driver settings).connect b caller port peer = (.error err, [], b)) ∧
      ∀ bytes encoder, ∃ err,
        (driver settings).transmit b caller port bytes encoder = (.error err, encoder, b) := by
  refine ⟨h.consistent.respects_call settings hcall hcaller hother, fun port hforeign =>
    ⟨?_, ?_, fun name => ?_, fun peer => ?_, fun bytes encoder => ?_⟩⟩
  · exact if_neg (by simp [hforeign])
  · exact if_neg (by simp [hforeign])
  · simp only [driver, renamePort, ownPort_foreign hforeign]
    split
    · exact ⟨_, rfl⟩
    · exact ⟨_, rfl⟩
  · simp only [driver, connect, ownPort_foreign hforeign]
    split
    · exact ⟨_, rfl⟩
    · exact ⟨_, rfl⟩
  · exact ⟨.unknownPort, by simp only [driver, transmit, ownPort_foreign hforeign]⟩

/-- Two clients listen to one source. One is closed, and the other hears the source as before. -/
theorem calls_isolated_shared_source :
    let b := (({} : Bus String).acts {} [.addSource "keys", .openClient "one",
      .registerPort ⟨2⟩ "in" .input .connectable, .connect ⟨2⟩ ⟨3⟩ ⟨"1"⟩, .openClient "two",
      .registerPort ⟨4⟩ "in" .input .connectable, .setHandler ⟨4⟩ "on",
      .connect ⟨4⟩ ⟨5⟩ ⟨"1"⟩]).2
    let after := (b.act {} (.closeClient ⟨2⟩)).2
    b.subscriptions = [(⟨1⟩, ⟨3⟩), (⟨1⟩, ⟨5⟩)] ∧ b.owns ⟨2⟩ ⟨5⟩ = false ∧
      after.subscriptions.filter (b.foreign ⟨2⟩) = [(⟨1⟩, ⟨5⟩)] ∧
      after.handlers.lookup ⟨4⟩ = some "on" ∧ b.unregisterPort ⟨2⟩ ⟨5⟩ = b := by
  intro b after
  have hreachable : Reachable {} b := Reachable.new.acts _ (by decide +kernel)
  have hforeign : b.owns ⟨2⟩ ⟨5⟩ = false := by decide +kernel
  obtain ⟨hrespects, hrefused⟩ := calls_isolated {} hreachable (.closeClient ⟨2⟩) ⟨2⟩ ⟨4⟩ rfl
    (by decide) (by decide)
  refine ⟨by decide +kernel, hforeign, ?_, ?_, (hrefused ⟨5⟩ hforeign).1⟩
  · rw [hrespects.subscriptions]
    decide +kernel
  · rw [hrespects.handler]
    decide +kernel

end Bus

end PatchBay
