import PatchBay.Proofs.Gating

/-!
# A reopened input starts afresh

What an input has of a message when its port is closed has no influence on what it hands out later,
whatever ports the driver gives it. All that it hands out after that are bytes that came through the
gate after that.
-/

namespace PatchBay

theorem Assembler.notice_opening (a : Assembler) (o : UInt64) : (a.notice o).opening = o := by
  unfold notice
  split
  · rename_i heq
    exact heq.symm
  · rfl

theorem Assembler.notice_seen {a : Assembler} {o : UInt64} (h : o = a.opening) :
    a.notice o = a := if_pos h

theorem Assembler.notice_filter (a : Assembler) (o : UInt64) :
    (a.notice o).filter = a.filter := by
  unfold notice
  split <;> rfl

theorem Assembler.notice_sink (a : Assembler) (o : UInt64) : (a.notice o).sink = a.sink := by
  unfold notice
  split <;> rfl

theorem Assembler.notice_counters (a : Assembler) (o : UInt64) :
    (a.notice o).counters = a.counters := by
  unfold notice
  split <;> rfl

theorem Assembler.accept_open {a : Assembler} {g : Gate} {port : PortId}
    (hopen : g.active = some port) (events : List RawEvent) :
    a.accept g port events = (a.notice g.opening).processAll events := by
  rw [accept, if_pos hopen]

/-- A batch for another port is counted. -/
theorem Assembler.accept_shut {a : Assembler} {g : Gate} {port : PortId}
    (hshut : g.active ≠ some port) (events : List RawEvent) :
    a.accept g port events =
      { a with counters := { a.counters with inactive := a.counters.inactive + 1 } } := by
  rw [accept, if_neg hshut]

/-- Forgetting a message leaves nothing of it. -/
theorem Assembler.DraftInv.notice {a : Assembler} (h : a.DraftInv) (o : UInt64) :
    (a.notice o).DraftInv ∧ (a.notice o).draft.bytes.Sublist a.draft.bytes := by
  unfold Assembler.notice
  split
  · exact ⟨h, List.Sublist.refl _⟩
  · exact ⟨⟨fun _ => rfl, nofun⟩, List.nil_sublist _⟩

theorem Assembler.kept_sublist (a : Assembler) (es : List RawEvent) :
    (a.kept es).flatten.Sublist (es.flatMap (·.fragment)) := by
  induction es generalizing a with
  | nil => exact List.Sublist.refl _
  | cons e es ih =>
    rw [kept, List.flatten_append, List.flatMap_cons]
    refine List.Sublist.append ?_ (ih _)
    split
    · simp
    · exact List.nil_sublist _

namespace Input

variable {σ η : Type} {d : Driver σ η} {ours : η → Bool} {i j : Input η} {s : σ} {port : PortId}
  {events : List RawEvent} {n : Nat}

/-! ## Openings are counted -/

/-- The assembler has seen no opening of the gate that is still to come, and `n` more openings can
be counted. -/
structure Counted (i : Input η) (n : Nat) : Prop where
  seen : i.assembler.opening ≤ i.gate.opening
  spare : i.gate.opening.toNat + n < UInt64.size

theorem Counted.le {m : Nat} (h : i.Counted n) (hm : m ≤ n) : i.Counted m := by
  refine ⟨h.seen, ?_⟩
  have hspare := h.spare
  omega

theorem receive_open (hopen : i.gate.active = some port) (events : List RawEvent) :
    i.receive port events =
      { i with assembler := (i.assembler.notice i.gate.opening).processAll events } := by
  rw [receive, Assembler.accept_open hopen]

theorem receive_shut (hshut : i.gate.active ≠ some port) (events : List RawEvent) :
    i.receive port events =
      { i with
        assembler := { i.assembler with
          counters := { i.assembler.counters with
            inactive := i.assembler.counters.inactive + 1 } } } := by
  rw [receive, Assembler.accept_shut hshut]

theorem Counted.receive (h : i.Counted n) (port : PortId) (events : List RawEvent) :
    (i.receive port events).Counted n := by
  by_cases hopen : i.gate.active = some port
  · rw [receive_open hopen]
    refine ⟨?_, h.spare⟩
    rw [Assembler.processAll_opening, Assembler.notice_opening]
    exact UInt64.le_refl _
  · rw [receive_shut hopen]
    exact ⟨h.seen, h.spare⟩

theorem Counted.receiveAll (h : i.Counted n) (batches : List (PortId × List RawEvent)) :
    (i.receiveAll batches).Counted n := by
  induction batches generalizing i with
  | nil => exact h
  | cons x batches ih => exact ih (h.receive x.1 x.2)

/-- An opening has a number that the assembler has not seen. -/
theorem Counted.activate (h : i.Counted (n + 1)) (port : PortId) :
    (i.activate port).Counted n ∧ (i.activate port).gate.opening ≠ i.assembler.opening := by
  have hspare := h.spare
  have hseen := UInt64.le_iff_toNat_le.mp h.seen
  have hnext : (i.gate.opening + 1).toNat = i.gate.opening.toNat + 1 := by
    rw [UInt64.toNat_add, UInt64.toNat_one, Nat.mod_eq_of_lt]
    have hsize : UInt64.size = 2 ^ 64 := rfl
    omega
  refine ⟨⟨?_, ?_⟩, fun heq => ?_⟩
  · rw [UInt64.le_iff_toNat_le]
    change _ ≤ (i.gate.opening + 1).toNat
    rw [hnext]
    exact Nat.le_succ_of_le hseen
  · change (i.gate.opening + 1).toNat + n < _
    rw [hnext]
    omega
  · have hsame : (i.gate.opening + 1).toNat = i.assembler.opening.toNat := congrArg _ heq
    omega

theorem Counted.registered (h : i.Counted (n + 1)) (d : Driver σ η) (s : σ) (name : String)
    (kind : PortKind) : (i.registered d s name kind).Counted n := by
  unfold Input.registered
  dsimp only
  split
  · rename_i port _
    have hsame : (i.withEndpoint (i.endpoint.register d s name kind).subject).Counted (n + 1) :=
      ⟨h.seen, h.spare⟩
    exact (hsame.activate port).1
  · exact ⟨h.seen, (h.le (Nat.le_succ n)).spare⟩

theorem Counted.perform {step : Step} (h : i.Counted (n + step.openings)) (d : Driver σ η)
    (ours : η → Bool) (s : σ) : (i.perform d ours s step).1.Counted n := by
  rw [perform_eq]
  refine receiveAll ?_ _
  cases step with
  | openPort index name clock =>
    change (i.openPort d s index name).subject.Counted n
    rw [openPort_eq d i s index name _ rfl]
    have hconnecting : (i.connecting d s name).Counted n := by
      unfold connecting
      split
      · exact h.le (Nat.le_succ n)
      · exact h.registered d s name .connectable
    exact ⟨hconnecting.seen, hconnecting.spare⟩
  | openVirtualPort name =>
    rw [performUpTo, (openVirtualPort_eq d i s name).1]
    exact h.registered d s name .virtual
  | _ => exact ⟨h.seen, h.spare⟩

theorem openings_append (first later : List Step) :
    openings (first ++ later) = openings first + openings later := by
  induction first with
  | nil => exact (Nat.zero_add _).symm
  | cons step first ih => rw [List.cons_append, openings, openings, ih, Nat.add_assoc]

theorem Counted.run (d : Driver σ η) (ours : η → Bool) (s : σ) (steps : List Step)
    (h : i.Counted (n + openings steps)) :
    (i.run d ours s steps).2.1.Counted n := by
  induction steps generalizing i s with
  | nil => exact h
  | cons step steps ih =>
    rw [openings, Nat.add_comm step.openings, ← Nat.add_assoc] at h
    exact ih _ (h.perform d ours s)

/-! ## What is hidden has no influence -/

/-- Two inputs that are told apart at most by what they have of a message, and that will not make
use of it: the gate is closed, or the assembler has not seen its last opening. -/
structure Matches (i j : Input η) : Prop where
  endpoint : j.endpoint = i.endpoint
  gate : j.gate = i.gate
  opening : j.assembler.opening = i.assembler.opening
  filter : i.assembler.filter = j.assembler.filter
  stamper : i.assembler.stamper = j.assembler.stamper
  hidden : i.assembler.Agrees j.assembler ∨ i.gate.active = none ∨
    i.gate.opening ≠ i.assembler.opening

theorem Matches.notice (h : i.Matches j) (hopen : i.gate.active = some port) :
    (i.assembler.notice i.gate.opening).Agrees (j.assembler.notice j.gate.opening) := by
  unfold Assembler.notice
  rw [h.gate, h.opening]
  split
  · rename_i heq
    rcases h.hidden with hagrees | hshut | hnew
    · exact hagrees
    · rw [hopen] at hshut
      cases hshut
    · exact absurd heq hnew
  · exact ⟨h.filter, rfl, rfl, h.stamper⟩

theorem Matches.handed (h : i.Matches j) (port : PortId) (events : List RawEvent) :
    (i.meets port events).handed = (j.meets port events).handed := by
  unfold Arrival.handed meets
  dsimp only
  by_cases hopen : i.gate.active = some port
  · rw [if_pos hopen, if_pos (h.gate ▸ hopen)]
    exact (h.notice hopen).handed events
  · rw [if_neg hopen, if_neg (h.gate ▸ hopen)]

theorem Matches.receive (h : i.Matches j) (port : PortId) (events : List RawEvent) :
    (i.receive port events).Matches (j.receive port events) := by
  by_cases hopen : i.gate.active = some port
  · have hagrees := (h.notice hopen).processAll events
    rw [receive_open hopen, receive_open (h.gate ▸ hopen)]
    refine ⟨h.endpoint, h.gate, ?_, hagrees.filter, hagrees.stamper, .inl hagrees⟩
    rw [Assembler.processAll_opening, Assembler.processAll_opening, Assembler.notice_opening,
      Assembler.notice_opening, h.gate]
  · rw [receive_shut hopen, receive_shut (h.gate ▸ hopen)]
    exact ⟨h.endpoint, h.gate, h.opening, h.filter, h.stamper,
      h.hidden.imp (fun ha => ⟨ha.filter, ha.draft, ha.continuing, ha.stamper⟩) id⟩

theorem Matches.receiveAll (h : i.Matches j) (batches : List (PortId × List RawEvent)) :
    (i.receiveAll batches).Matches (j.receiveAll batches) := by
  induction batches generalizing i j with
  | nil => exact h
  | cons x batches ih => exact ih (h.receive x.1 x.2)

theorem Matches.arrivals (h : i.Matches j) (batches : List (PortId × List RawEvent)) :
    (i.arrivals batches).flatMap Arrival.handed = (j.arrivals batches).flatMap Arrival.handed ∧
      (i.arrivals batches).flatMap Arrival.admitted =
        (j.arrivals batches).flatMap Arrival.admitted := by
  induction batches generalizing i j with
  | nil => exact ⟨rfl, rfl⟩
  | cons x batches ih =>
    obtain ⟨hhanded, hadmitted⟩ := ih (h.receive x.1 x.2)
    have hfirst : (i.meets x.1 x.2).admitted = (j.meets x.1 x.2).admitted := by
      unfold Arrival.admitted meets
      dsimp only
      rw [h.endpoint]
    simp only [Input.arrivals, List.flatMap_cons, h.handed, hhanded, hfirst, hadmitted, and_self]

theorem Matches.withEndpoint (h : i.Matches j) (e : Endpoint η) :
    (i.withEndpoint e).Matches (j.withEndpoint e) :=
  ⟨rfl, h.gate, h.opening, h.filter, h.stamper, h.hidden⟩

theorem Matches.deactivate (h : i.Matches j) : i.deactivate.Matches j.deactivate :=
  ⟨h.endpoint, congrArg Gate.deactivate h.gate, h.opening, h.filter, h.stamper, .inr (.inl rfl)⟩

theorem Matches.registered (h : i.Matches j) (hc : i.Counted 1) (d : Driver σ η) (s : σ)
    (name : String) (kind : PortKind) :
    (i.registered d s name kind).Matches (j.registered d s name kind) := by
  unfold Input.registered
  rw [h.endpoint]
  dsimp only
  split
  · rename_i port _
    have hnew : i.gate.opening + 1 ≠ i.assembler.opening := (hc.activate port).2
    exact ⟨rfl, congrArg (·.activate port) h.gate, h.opening, h.filter, h.stamper,
      .inr (.inr hnew)⟩
  · exact h.withEndpoint _

theorem Matches.connecting (h : i.Matches j) (hc : i.Counted 1) (d : Driver σ η) (s : σ)
    (name : String) : (i.connecting d s name).Matches (j.connecting d s name) := by
  unfold Input.connecting
  rw [h.endpoint]
  split
  · exact h
  · exact h.registered hc d s name .connectable

theorem Matches.batches (h : i.Matches j) (d : Driver σ η) (ours : η → Bool) (s : σ)
    (step : Step) : j.batches d ours s step = i.batches d ours s step := by
  cases step with
  | openPort index name clock =>
    rw [Input.batches, Input.batches, openPort_eq d i s index name _ rfl,
      openPort_eq d j s index name _ rfl, h.endpoint]
    rfl
  | _ => rfl

/-- The endpoint and the driver do not depend on what is hidden. -/
theorem Matches.performUpTo {step : Step} (h : i.Matches j) (hc : i.Counted step.openings)
    (d : Driver σ η) (ours : η → Bool) (s : σ) :
    (i.performUpTo d ours s 0 step).1.Matches (j.performUpTo d ours s 0 step).1 ∧
      (j.performUpTo d ours s 0 step).2 = (i.performUpTo d ours s 0 step).2 := by
  cases step with
  | openPort index name clock =>
    change (i.openPort d s index name).subject.Matches (j.openPort d s index name).subject ∧
      (j.openPort d s index name).driver = (i.openPort d s index name).driver
    rw [openPort_eq d i s index name _ rfl, openPort_eq d j s index name _ rfl, h.endpoint]
    exact ⟨(h.connecting hc d s name).withEndpoint _, rfl⟩
  | openVirtualPort name =>
    obtain ⟨hi, hdi⟩ := openVirtualPort_eq d i s name
    obtain ⟨hj, hdj⟩ := openVirtualPort_eq d j s name
    rw [Input.performUpTo, Input.performUpTo, hi, hdi, hj, hdj, h.endpoint]
    exact ⟨h.registered hc d s name .virtual, rfl⟩
  | closePort =>
    simp only [Input.performUpTo, closePort, h.deactivate.endpoint, and_true]
    exact h.deactivate.withEndpoint _
  | shutdown =>
    simp only [Input.performUpTo, shutdown, h.deactivate.endpoint, and_true]
    exact h.deactivate.withEndpoint _
  | setPortName name =>
    simp only [Input.performUpTo, setPortName, h.endpoint]
    exact ⟨h.withEndpoint _, rfl⟩
  | setClientName name =>
    simp only [Input.performUpTo, setClientName, h.endpoint]
    exact ⟨h.withEndpoint _, rfl⟩
  | listPorts =>
    rw [Input.performUpTo, Input.performUpTo, h.endpoint]
    exact ⟨h, rfl⟩
  | next =>
    exact ⟨⟨h.endpoint, h.gate, h.opening, h.filter, h.stamper,
      h.hidden.imp (fun ha => ⟨ha.filter, ha.draft, ha.continuing, ha.stamper⟩) id⟩, rfl⟩
  | batch port events => exact ⟨h, rfl⟩

/-- Inputs that match let in and hand out the same in any steps that open the gate no more often
than can be counted. -/
theorem Matches.run (h : i.Matches j) (d : Driver σ η) (ours : η → Bool) (s : σ)
    (steps : List Step) (hc : i.Counted (openings steps)) :
    (i.run d ours s steps).1.flatMap Arrival.handed =
        (j.run d ours s steps).1.flatMap Arrival.handed ∧
      (i.run d ours s steps).1.flatMap Arrival.admitted =
        (j.run d ours s steps).1.flatMap Arrival.admitted := by
  induction steps generalizing i j s with
  | nil => exact ⟨rfl, rfl⟩
  | cons step steps ih =>
    rw [openings, Nat.add_comm] at hc
    have hstep : i.Counted step.openings := hc.le (Nat.le_add_left _ _)
    obtain ⟨hunheard, hdriver⟩ := h.performUpTo hstep d ours s
    obtain ⟨hhanded, hadmitted⟩ := hunheard.arrivals (i.batches d ours s step)
    have hafter := hunheard.receiveAll (i.batches d ours s step)
    have hcafter := hc.perform d ours s
    rw [perform_eq] at hcafter
    obtain ⟨hhanded', hadmitted'⟩ := ih hafter (i.performUpTo d ours s 0 step).2 hcafter
    simp only [run_cons, List.flatMap_append, h.batches, hdriver, hhanded, hhanded', hadmitted,
      hadmitted', and_self]

/-! ## What is handed out came through the gate -/

/-- Of the bytes that were held back and of those that came in, in order, some are handed out, some
are held back and some are dropped. -/
def Conserves (held into out left : Bytes) : Prop := (out ++ left).Sublist (held ++ into)

theorem Conserves.trans {held into out left more out' left' : Bytes}
    (h : Conserves held into out left) (h' : Conserves left more out' left') :
    Conserves held (into ++ more) (out ++ out') left' := by
  have hfirst : (out ++ left ++ more).Sublist (held ++ into ++ more) :=
    List.Sublist.append_right h more
  have hlater : (out ++ (out' ++ left')).Sublist (out ++ (left ++ more)) :=
    List.Sublist.append_left h' out
  rw [← List.append_assoc out left] at hlater
  unfold Conserves
  rw [List.append_assoc, ← List.append_assoc held]
  exact hlater.trans hfirst

theorem receive_conserves (h : i.assembler.DraftInv) (port : PortId) (events : List RawEvent) :
    (i.receive port events).assembler.DraftInv ∧
      Conserves i.assembler.draft.bytes
        ((if i.gate.active = some port then events else []).flatMap (·.fragment))
        ((i.meets port events).handed.flatMap (·.bytes))
        (i.receive port events).assembler.draft.bytes := by
  unfold Arrival.handed meets Conserves
  by_cases hopen : i.gate.active = some port
  · obtain ⟨hnotice, hheld⟩ := h.notice i.gate.opening
    rw [receive_open hopen, if_pos hopen, if_pos hopen]
    refine ⟨hnotice.processAll events, ?_⟩
    dsimp only
    rw [Assembler.conserves_run hnotice]
    exact hheld.append (Assembler.kept_sublist _ events)
  · rw [receive_shut hopen, if_neg hopen, if_neg hopen]
    refine ⟨⟨h.empty, h.starts⟩, ?_⟩
    simp

theorem arrivals_conserve (h : i.assembler.DraftInv) (hg : i.Guarded)
    (batches : List (PortId × List RawEvent)) :
    (i.receiveAll batches).assembler.DraftInv ∧
      Conserves i.assembler.draft.bytes
        (((i.arrivals batches).flatMap Arrival.admitted).flatMap (·.fragment))
        (((i.arrivals batches).flatMap Arrival.handed).flatMap (·.bytes))
        (i.receiveAll batches).assembler.draft.bytes := by
  induction batches generalizing i with
  | nil =>
    refine ⟨h, ?_⟩
    simp [Conserves, Input.arrivals, Input.receiveAll]
  | cons x batches ih =>
    obtain ⟨hinv, hfirst⟩ := receive_conserves h x.1 x.2
    obtain ⟨hinv', hlater⟩ := ih hinv (hg.receive x.1 x.2)
    have hadmitted : (i.meets x.1 x.2).admitted =
        if i.gate.active = some x.1 then x.2 else [] := by
      rw [hg]
      rfl
    rw [← hadmitted] at hfirst
    rw [Input.arrivals, List.flatMap_cons, List.flatMap_cons, List.flatMap_append,
      List.flatMap_append]
    exact ⟨hinv', hfirst.trans hlater⟩

theorem registered_assembler (d : Driver σ η) (i : Input η) (s : σ) (name : String)
    (kind : PortKind) : (i.registered d s name kind).assembler = i.assembler := by
  unfold registered
  dsimp only
  split <;> rfl

/-- Only batches change what an input has of a message. -/
theorem performUpTo_draft (h : i.assembler.DraftInv) (d : Driver σ η) (ours : η → Bool) (s : σ)
    (step : Step) :
    (i.performUpTo d ours s 0 step).1.assembler.DraftInv ∧
      (i.performUpTo d ours s 0 step).1.assembler.draft = i.assembler.draft := by
  have hsame : ∀ {a : Assembler}, a = i.assembler → a.DraftInv ∧ a.draft = i.assembler.draft := by
    rintro _ rfl
    exact ⟨h, rfl⟩
  cases step with
  | openPort index name clock =>
    refine hsame ?_
    change (i.openPort d s index name).subject.assembler = i.assembler
    rw [openPort_eq d i s index name _ rfl]
    change (i.connecting d s name).assembler = i.assembler
    unfold connecting
    split
    · rfl
    · exact registered_assembler d i s name .connectable
  | openVirtualPort name =>
    rw [performUpTo, (openVirtualPort_eq d i s name).1]
    exact hsame (registered_assembler d i s name .virtual)
  | next => exact ⟨⟨h.empty, h.starts⟩, rfl⟩
  | _ => exact hsame rfl

theorem run_conserves (h : i.assembler.DraftInv) (hg : i.Guarded) (d : Driver σ η)
    (ours : η → Bool) (s : σ) (steps : List Step) :
    Conserves i.assembler.draft.bytes
      (((i.run d ours s steps).1.flatMap Arrival.admitted).flatMap (·.fragment))
      (((i.run d ours s steps).1.flatMap Arrival.handed).flatMap (·.bytes))
      (i.run d ours s steps).2.1.assembler.draft.bytes := by
  induction steps generalizing i s with
  | nil => simp [Conserves, run]
  | cons step steps ih =>
    have hgstep := hg.performUpTo d ours s 0 step
    obtain ⟨hinv, hdraft⟩ := performUpTo_draft h d ours s step
    obtain ⟨hinv', hfirst⟩ := arrivals_conserve hinv hgstep (i.batches d ours s step)
    have hlater := ih hinv' (hgstep.receiveAll _) (i.performUpTo d ours s 0 step).2
    rw [hdraft] at hfirst
    rw [run_cons]
    dsimp only
    rw [List.flatMap_append, List.flatMap_append, List.flatMap_append, List.flatMap_append]
    exact hfirst.trans hlater

/-! ## Closed and opened again -/

theorem ofSettings_guarded (settings : Settings) (mode : Mode) (handler : η) :
    (ofSettings settings mode handler).Guarded := rfl

theorem ofSettings_counted (settings : Settings) (mode : Mode) (handler : η)
    (hn : n < UInt64.size) : (ofSettings settings mode handler).Counted n := by
  refine ⟨UInt64.le_refl _, ?_⟩
  have hzero : (ofSettings settings mode handler).gate.opening.toNat = 0 := rfl
  rwa [hzero, Nat.zero_add]

/-- **A closed input takes nothing, and a reopened one starts afresh.** Take a fresh input, over any
driver, and any steps in a row. A batch is processed if it is for the port that is registered when
it arrives; any other is counted, and changes nothing else. This compares the input as the step
leaves it in which the batch arrives with the same step without the batch, and what the driver
delivers while it makes a connection arrives inside of the call that opens the port. After the port
was closed, the input hands out what it would hand out if it had nothing of a message by then, and
all of it are bytes that arrived after that for the port that was registered. The gate has a number
for fewer than `2 ^ 64` openings. -/
theorem run_gated (d : Driver σ η) (ours : η → Bool) (settings : Settings) (mode : Mode)
    (handler : η) (s : σ) (steps : List Step) :
    let start := ofSettings settings mode handler
    (∀ x ∈ (start.run d ours s steps).1,
      (x.input.endpoint.link.port? = some x.port →
        x.after = { x.input with
          assembler := (x.input.assembler.notice x.input.gate.opening).processAll x.events }) ∧
      (x.input.endpoint.link.port? ≠ some x.port →
        x.after = { x.input with
          assembler := { x.input.assembler with
            counters := { x.input.assembler.counters with
              inactive := x.input.assembler.counters.inactive + 1 } } }) ∧
      x.after.assembler.sink = x.input.assembler.sink.deliverAll x.handed) ∧
    ∀ before after, steps = before ++ .closePort :: after →
      openings steps < UInt64.size →
      let closed := (start.run d ours s (before ++ [.closePort])).2
      let later := (closed.1.run d ours closed.2 after).1
      let cleared := { closed.1 with
        assembler := { closed.1.assembler with draft := {}, continuing := false } }
      later.flatMap Arrival.handed =
          (cleared.run d ours closed.2 after).1.flatMap Arrival.handed ∧
        ((later.flatMap Arrival.handed).flatMap (·.bytes)).Sublist
          ((later.flatMap Arrival.admitted).flatMap (·.fragment)) := by
  intro start
  refine ⟨fun x hx => ?_, ?_⟩
  · obtain ⟨hgate, hafter⟩ := (ofSettings_guarded settings mode handler).run d ours s steps x hx
    rw [← hgate, hafter]
    refine ⟨fun hopen => receive_open hopen _, fun hshut => receive_shut hshut _, ?_⟩
    unfold Arrival.handed
    by_cases hopen : x.input.gate.active = some x.port
    · rw [receive_open hopen, if_pos hopen]
      dsimp only
      rw [Assembler.processAll_sink, Assembler.notice_sink]
    · rw [receive_shut hopen, if_neg hopen]
      rfl
  · rintro before after rfl hcount closed later cleared
    have hguarded := (ofSettings_guarded settings mode handler).run_after d ours s
      (before ++ [.closePort])
    have hcounted : closed.1.Counted (openings after) := by
      refine Counted.run d ours s (before ++ [.closePort]) ?_
      refine ofSettings_counted settings mode handler ?_
      have hbefore : openings (before ++ [.closePort]) = openings before := openings_append _ _
      have hlater : openings (.closePort :: after) = openings after := Nat.zero_add _
      rw [openings_append, hlater] at hcount
      omega
    have hshut : closed.1.gate.active = none := by
      dsimp only [closed]
      rw [run_append]
      rfl
    have hmatches : closed.1.Matches cleared :=
      ⟨rfl, rfl, rfl, rfl, rfl, .inr (.inl hshut)⟩
    obtain ⟨hhanded, hadmitted⟩ := hmatches.run d ours closed.2 after hcounted
    refine ⟨hhanded, ?_⟩
    have hclear : cleared.assembler.DraftInv := ⟨fun _ => rfl, nofun⟩
    have hbytes := run_conserves hclear hguarded d ours closed.2 after
    rw [← hhanded, ← hadmitted] at hbytes
    exact (List.sublist_append_left _ _).trans hbytes

/-- A driver that has one handle for all ports, and begins a SysEx while it connects one. The second
connection is not made from the remains of the first. -/
theorem run_gated_same_handle :
    let d : Driver Unit Unit :=
      { backend := .loopback
        openClient := fun s _ => (.ok ⟨1⟩, s)
        closeClient := fun s _ => s
        setHandler := fun s _ _ => (.ok (), s)
        registerPort := fun s _ _ _ _ => (.ok ⟨7⟩, s)
        unregisterPort := fun s _ _ => s
        enumerate := fun s _ => ([⟨"keys", ⟨"1"⟩⟩], s)
        connect := fun s _ _ _ => (.ok (), [⟨(), ⟨7⟩, [[0xF0, 0x01]]⟩], s)
        disconnect := fun s _ _ => s
        transmit := fun s _ _ bytes encoder => (.ok bytes.length, encoder, s)
        drain := fun s _ => (.ok (), s) }
    let before : List Step := [.openPort 0 "in" fun _ => {}]
    let after : List Step := [.batch ⟨7⟩ [⟨{}, [0x02, 0xF7]⟩], .openPort 0 "in" fun _ => {},
      .batch ⟨7⟩ [⟨{}, [0x03, 0xF7]⟩]]
    let start := ofSettings { filter := .passAll } .callback ()
    let closed := (start.run d (fun _ => true) () (before ++ [.closePort])).2
    let later := (closed.1.run d (fun _ => true) closed.2 after).1
    closed.1.assembler.draft.bytes = [0xF0, 0x01] ∧
      (later.flatMap Arrival.handed).map (·.bytes) = [[0xF0, 0x01, 0x03, 0xF7]] ∧
      ((later.flatMap Arrival.handed).flatMap (·.bytes)).Sublist
        ((later.flatMap Arrival.admitted).flatMap (·.fragment)) := by
  intro d before after start closed later
  have hgated := (run_gated d (fun _ => true) { filter := .passAll } .callback () ()
    (before ++ .closePort :: after)).2 before after rfl (by decide)
  exact ⟨by decide +kernel, by decide +kernel, hgated.2⟩

end Input

end PatchBay
