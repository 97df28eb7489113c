import PatchBay.Driver.Scripted
import PatchBay.Proofs.FreshStart

/-!
# Opening a port in vain

An input that has a port already is told to open one, and the call fails. Its endpoint is what it
was. If the name was refused, so is everything else. But any other failure comes after the gate was
opened once more, and then the next batch finds nothing of a SysEx that was in progress.
-/

namespace PatchBay

/-- The name that was given is too long. -/
def PortError.refusesName : PortError → Bool
  | .invalidName .. => true
  | _ => false

theorem PortError.ofDriver_refusesName (err : DriverError) :
    (PortError.ofDriver err).refusesName = false := by
  cases err <;> rfl

/-! ## What the endpoint does -/

namespace Endpoint

variable {σ η : Type} {d : Driver σ η} {e : Endpoint η} {s : σ} {port : PortId} {name : String}
  {index : Nat} {err : PortError}

theorem checkName_error (h : e.checkName d name = .error err) : err.refusesName = true := by
  unfold checkName at h
  split at h
  · cases h
  · split at h
    · cases h
      rfl
    · cases h

/-- A connection fails for another reason than the name, and only where there is none. -/
theorem connectPort_error (h : (e.connectPort d s index).result = .error err) :
    (e.connectPort d s index).subject = e ∧ e.isConnected = false ∧ err.refusesName = false := by
  unfold connectPort at h ⊢
  cases hlink : e.link with
  | portOpen client port peer =>
    rw [hlink] at h
    cases peer with
    | some peer => cases h
    | none =>
      have hconnected : e.isConnected = false := by
        rw [isConnected, hlink]
        rfl
      dsimp only at h ⊢
      split at h
      · cases h
        exact ⟨rfl, hconnected, rfl⟩
      split at h
      · cases h
        exact ⟨rfl, hconnected, PortError.ofDriver_refusesName _⟩
      · cases h
  | disconnected | clientOpen =>
    rw [hlink] at h
    cases h
    exact ⟨rfl, by rw [isConnected, hlink]; rfl, rfl⟩

/-- Where there is a port, opening one fails because of the name, or after the name was accepted
because no connection was made. -/
theorem openPort_error (hport : e.link.port? = some port)
    (h : (e.openPort d s index name).result = .error err) :
    (e.openPort d s index name).subject = e ∧
      (err.refusesName = true ∧ e.checkName d name = .error err ∨
        err.refusesName = false ∧ e.isConnected = false ∧ e.checkName d name = .ok ()) := by
  unfold openPort Outcome.andThen at h ⊢
  rw [register_of_port hport] at h ⊢
  cases hname : e.checkName d name with
  | error refusal =>
    rw [hname] at h
    cases h
    exact ⟨rfl, .inl ⟨checkName_error hname, rfl⟩⟩
  | ok u =>
    rw [hname] at h
    obtain ⟨hsame, hconnected, hother⟩ := connectPort_error h
    exact ⟨hsame, .inr ⟨hother, hconnected, rfl⟩⟩

/-- Where there is a port, opening a virtual one fails because of the name only. -/
theorem openVirtualPort_error (hport : e.link.port? = some port)
    (h : (e.openVirtualPort d s name).result = .error err) :
    err.refusesName = true ∧ e.checkName d name = .error err := by
  unfold openVirtualPort Outcome.andThen at h
  rw [register_of_port hport] at h
  cases hname : e.checkName d name with
  | error refusal =>
    rw [hname] at h
    cases h
    exact ⟨checkName_error hname, rfl⟩
  | ok u =>
    rw [hname] at h
    cases h

end Endpoint

namespace Input

variable {σ η : Type} {d : Driver σ η} {ours : η → Bool} {i j : Input η} {s : σ} {port : PortId}
  {name : String} {kind : PortKind} {o : Outcome (Input η) σ η Unit} {err : PortError}

/-! ## What the input does -/

/-- What a call came to that opens a port, by index or for others to connect to. -/
inductive Opens (d : Driver σ η) (i : Input η) (s : σ) : Outcome (Input η) σ η Unit → Prop where
  | byIndex (index : Nat) (name : String) : Opens d i s (i.openPort d s index name)
  | virtual (name : String) : Opens d i s (i.openVirtualPort d s name)

theorem registered_of_port (hport : i.endpoint.link.port? = some port) :
    i.registered d s name kind =
      match i.endpoint.checkName d name with
      | .error _ => i
      | .ok () => i.activate port := by
  unfold registered
  rw [Endpoint.register_of_port hport]
  cases i.endpoint.checkName d name <;> rfl

/-- A call that fails because of the name does nothing. One that fails later has opened the gate
for the port that was there, and has done nothing else. -/
theorem Opens.failed (h : Opens d i s o) (hport : i.endpoint.link.port? = some port)
    (herr : o.result = .error err) :
    err.refusesName = true ∧ o.subject = i ∨
      err.refusesName = false ∧ o.subject = i.activate port := by
  cases h with
  | byIndex index name =>
    rw [openPort_eq d i s index name _ rfl] at herr ⊢
    obtain ⟨hsame, hcause⟩ := Endpoint.openPort_error hport herr
    unfold Outcome.within connecting
    rw [hsame, registered_of_port hport]
    rcases hcause with ⟨hrefused, hname⟩ | ⟨hother, hconnected, hname⟩
    · refine .inl ⟨hrefused, ?_⟩
      rw [hname, ite_self]
      rfl
    · refine .inr ⟨hother, ?_⟩
      rw [hname, hconnected]
      rfl
  | virtual name =>
    have hresult : (i.endpoint.openVirtualPort d s name).result = .error err := by
      rw [← herr]
      unfold openVirtualPort Endpoint.openVirtualPort Outcome.within Outcome.andThen
      dsimp only
      cases (i.endpoint.register d s name .virtual).result <;> rfl
    obtain ⟨hrefused, hname⟩ := Endpoint.openVirtualPort_error hport hresult
    refine .inl ⟨hrefused, ?_⟩
    rw [(openVirtualPort_eq d i s name).1, registered_of_port hport, hname]

/-! ## What comes of later batches -/

/-- Any batches come to the same messages, with the same timestamps, and to the same counts. -/
def SameStream (i j : Input η) : Prop :=
  ∀ batches : List (PortId × List RawEvent),
    (i.arrivals batches).flatMap Arrival.handed = (j.arrivals batches).flatMap Arrival.handed ∧
      (i.receiveAll batches).assembler.sink = (j.receiveAll batches).assembler.sink ∧
      (i.receiveAll batches).assembler.counters = (j.receiveAll batches).assembler.counters

/-- The assembler as the next batch that is let in finds it, but for the number of the opening. -/
def ready (i : Input η) : Assembler := { i.assembler.notice i.gate.opening with opening := 0 }

theorem ready_agrees (i : Input η) : i.ready.Agrees (i.assembler.notice i.gate.opening) :=
  ⟨rfl, rfl, rfl, rfl⟩

theorem ready_sink (i : Input η) : i.ready.sink = i.assembler.sink :=
  Assembler.notice_sink _ _

theorem ready_counters (i : Input η) : i.ready.counters = i.assembler.counters :=
  Assembler.notice_counters _ _

theorem handed_ready (i : Input η) (port : PortId) (events : List RawEvent) :
    (i.meets port events).handed =
      if i.gate.active = some port then i.ready.handed events else [] := by
  rw [i.ready_agrees.handed]
  rfl

theorem ready_receive_open (hopen : i.gate.active = some port) (events : List RawEvent) :
    (i.receive port events).ready = i.ready.processAll events := by
  let a := (i.assembler.notice i.gate.opening).processAll events
  have hseen : a.opening = i.gate.opening := by
    rw [Assembler.processAll_opening, Assembler.notice_opening]
  calc (i.receive port events).ready
      = { a.notice i.gate.opening with opening := 0 } := by rw [receive_open hopen]; rfl
    _ = { a with opening := 0 } := by rw [Assembler.notice_seen hseen.symm]
    _ = i.ready.processAll events := (Assembler.processAll_withOpening _ 0 events).symm

theorem ready_receive_shut (hshut : i.gate.active ≠ some port) (events : List RawEvent) :
    (i.receive port events).ready =
      { i.ready with
        counters := { i.ready.counters with inactive := i.ready.counters.inactive + 1 } } := by
  rw [receive_shut hshut]
  unfold ready Assembler.notice
  dsimp only
  split <;> rfl

/-- Two inputs that take the next batch alike. -/
structure Tuned (i j : Input η) : Prop where
  active : i.gate.active = j.gate.active
  ready : i.ready = j.ready

theorem Tuned.receive (h : i.Tuned j) (port : PortId) (events : List RawEvent) :
    (i.receive port events).Tuned (j.receive port events) := by
  refine ⟨h.active, ?_⟩
  by_cases hopen : i.gate.active = some port
  · rw [ready_receive_open hopen, ready_receive_open (h.active ▸ hopen), h.ready]
  · rw [ready_receive_shut hopen, ready_receive_shut (h.active ▸ hopen), h.ready]

theorem Tuned.sameStream (h : i.Tuned j) : i.SameStream j := by
  intro batches
  induction batches generalizing i j with
  | nil =>
    refine ⟨rfl, ?_, ?_⟩
    · rw [receiveAll, receiveAll, List.foldl_nil, List.foldl_nil, ← ready_sink, ← ready_sink,
        h.ready]
    · rw [receiveAll, receiveAll, List.foldl_nil, List.foldl_nil, ← ready_counters,
        ← ready_counters, h.ready]
  | cons x batches ih =>
    obtain ⟨hhanded, hafter⟩ := ih (h.receive x.1 x.2)
    refine ⟨?_, hafter⟩
    rw [arrivals, arrivals, List.flatMap_cons, List.flatMap_cons, hhanded, handed_ready,
      handed_ready, h.active, h.ready]

theorem SameStream.symm (h : i.SameStream j) : j.SameStream i := fun batches =>
  ⟨(h batches).1.symm, (h batches).2.1.symm, (h batches).2.2.symm⟩

theorem SameStream.trans {k : Input η} (h : i.SameStream j) (h' : j.SameStream k) :
    i.SameStream k := fun batches =>
  ⟨(h batches).1.trans (h' batches).1, (h batches).2.1.trans (h' batches).2.1,
    (h batches).2.2.trans (h' batches).2.2⟩

/-! ## A message that is cut off -/

/-- The input with nothing of a message. -/
def cut (i : Input η) : Input η :=
  { i with assembler := { i.assembler with draft := {}, continuing := false } }

theorem ready_cut (i : Input η) :
    i.cut.ready = { i.ready with draft := {}, continuing := false } := by
  unfold cut ready Assembler.notice
  dsimp only
  split <;> rfl

/-- One more opening of the gate cuts off the message in progress, and does nothing else. -/
theorem activate_tuned (hopen : i.gate.active = some port) (hc : i.Counted 1) :
    (i.activate port).Tuned i.cut := by
  refine ⟨hopen.symm, ?_⟩
  have hnew : ¬ (i.activate port).gate.opening = (i.activate port).assembler.opening :=
    (hc.activate port).2
  rw [ready_cut]
  unfold ready
  rw [Assembler.notice, if_neg hnew]
  unfold Assembler.notice
  split <;> rfl

/-- Whether a SysEx is in progress shows in what becomes of a data byte. -/
theorem handed_data (a : Assembler) (t : Time) :
    a.handed [⟨t, [0x01]⟩] = [] ↔ a.continuing = true := by
  unfold Assembler.handed Assembler.handed Assembler.emitted? Assembler.judge
  cases a.continuing with
  | true =>
    have hheld : (a.filter.apply true [0x01]).1.deliver = false := Bool.and_false _
    rw [hheld]
    exact ⟨fun _ => rfl, fun _ => rfl⟩
  | false => exact ⟨fun h => absurd h (List.cons_ne_nil _ _), fun h => absurd h Bool.false_ne_true⟩

/-- To cut off what is in progress makes no difference exactly if there is nothing. -/
theorem cut_sameStream_iff (hopen : i.gate.active = some port) (hinv : i.assembler.DraftInv) :
    i.cut.SameStream i ↔ i.ready.continuing = false := by
  constructor
  · intro hsame
    have hbyte := (hsame [(port, [⟨{}, [0x01]⟩])]).1
    have hcut : i.cut.gate.active = some port := hopen
    simp only [arrivals, List.flatMap_cons, List.flatMap_nil, List.append_nil, handed_ready,
      if_pos hopen, if_pos hcut] at hbyte
    cases hcont : i.ready.continuing with
    | false => rfl
    | true =>
      rw [(handed_data _ {}).mpr hcont, handed_data, ready_cut] at hbyte
      cases hbyte
  · intro hnone
    obtain ⟨hinv', -⟩ := hinv.notice i.gate.opening
    have hempty : i.ready.draft = {} := congrArg Draft.mk (hinv'.empty (.inl hnone))
    refine Tuned.sameStream ⟨rfl, ?_⟩
    rw [ready_cut, ← hnone, ← hempty]

/-! ## Any input -/

theorem receiveAll_draftInv (h : i.assembler.DraftInv) (batches : List (PortId × List RawEvent)) :
    (i.receiveAll batches).assembler.DraftInv := by
  induction batches generalizing i with
  | nil => exact h
  | cons x batches ih => exact ih (receive_conserves h x.1 x.2).1

theorem run_draftInv (h : i.assembler.DraftInv) (d : Driver σ η) (ours : η → Bool) (s : σ)
    (steps : List Step) : (i.run d ours s steps).2.1.assembler.DraftInv := by
  induction steps generalizing i s with
  | nil => exact h
  | cons step steps ih =>
    have hstep := receiveAll_draftInv (performUpTo_draft h d ours s step).1
      (i.batches d ours s step)
    rw [run_cons]
    exact ih hstep _

/-- **A failed open cuts off a SysEx, unless the name was refused.** Take a fresh input, over any
driver, and any steps in a row after which it has a port. Then let a call to open a port fail. The
endpoint is left as it was. If the name was refused, so is everything else. If the call failed after
that, because of the place in the list or in the driver, later batches come to what they would come
to if a SysEx in progress had been cut off. So they come to what they would come to without the call
exactly if the name was refused or no SysEx was in progress. Batches that the driver delivers during
the call are among the later ones. The gate has a number for fewer than `2 ^ 64` openings. -/
theorem failed_open_undisturbed_iff (d : Driver σ η) (ours : η → Bool) (settings : Settings)
    (mode : Mode) (handler : η) (s : σ) (history : List Step)
    (hcount : openings history + 1 < UInt64.size) :
    let now := ((ofSettings settings mode handler).run d ours s history).2
    now.1.endpoint.link.port?.isSome → ∀ o err, Opens d now.1 now.2 o → o.result = .error err →
      o.subject.endpoint = now.1.endpoint ∧
      (err.refusesName = true → o.subject = now.1) ∧
      (err.refusesName = false → o.subject.SameStream now.1.cut) ∧
      (o.subject.SameStream now.1 ↔
        err.refusesName = true ∨ now.1.ready.continuing = false) := by
  intro now hport o err hopens herr
  have hguarded : now.1.Guarded :=
    (ofSettings_guarded settings mode handler).run_after d ours s history
  have hcounted : now.1.Counted 1 := by
    refine Counted.run d ours s history (ofSettings_counted settings mode handler ?_)
    rwa [Nat.add_comm]
  have hinv : now.1.assembler.DraftInv :=
    run_draftInv (Assembler.draftInv_fresh settings.filter (mode.sink settings)) d ours s history
  obtain ⟨port, hport⟩ := Option.isSome_iff_exists.mp hport
  have hopen : now.1.gate.active = some port := hguarded.trans hport
  rcases hopens.failed hport herr with ⟨hrefused, hsame⟩ | ⟨hother, hmoved⟩
  · rw [hsame, hrefused]
    refine ⟨rfl, fun _ => rfl, nofun, fun _ => .inl rfl, fun _ => ?_⟩
    exact fun batches => ⟨rfl, rfl, rfl⟩
  · have hcut : o.subject.SameStream now.1.cut := by
      rw [hmoved]
      exact (activate_tuned hopen hcounted).sameStream
    refine ⟨by rw [hmoved]; rfl, fun hrefused => ?_, fun _ => hcut, ?_⟩
    · rw [hother] at hrefused
      cases hrefused
    · rw [hother, ← cut_sameStream_iff hopen hinv]
      exact ⟨fun h => .inr (hcut.symm.trans h), fun h => hcut.trans (h.resolve_left nofun)⟩

/-- A SysEx is in progress. A name that is too long does not disturb it, and a place where no port
is listed cuts it off. -/
theorem failed_open_undisturbed_inside_sysex :
    let d : Driver (Scripted Unit) Unit := Scripted.driver .loopback (some 16)
    let settings : Settings := { clientName := "keys", filter := .passAll }
    let history : List Step := [.openVirtualPort "in", .batch ⟨1⟩ [⟨{}, [0xF0, 0x01]⟩]]
    let now := ((ofSettings settings .callback ()).run d (fun _ => true) {} history).2
    now.1.ready.continuing = true ∧
      (now.1.openVirtualPort d now.2 "upper keyboard").subject.SameStream now.1 ∧
      (now.1.openPort d now.2 3 "in").subject.SameStream now.1.cut ∧
      ¬ (now.1.openPort d now.2 3 "in").subject.SameStream now.1 := by
  intro d settings history now
  have hinside : now.1.ready.continuing = true := by decide +kernel
  have hfailed := failed_open_undisturbed_iff d (fun _ => true) settings .callback () {} history
    (by decide) (by decide +kernel)
  obtain ⟨-, -, -, hname⟩ := hfailed _ (.invalidName "upper keyboard" 16)
    (.virtual "upper keyboard") rfl
  obtain ⟨-, -, hcut, hplace⟩ := hfailed _ (.invalidPortIndex 3 0) (.byIndex 3 "in") rfl
  refine ⟨hinside, hname.mpr (.inl rfl), hcut rfl, fun hsame => ?_⟩
  rcases hplace.mp hsame with hrefused | hnone
  · cases hrefused
  · rw [hinside] at hnone
    cases hnone

/-- In the middle of a SysEx, an input is told to open a port at a place where none is listed.
Nothing is delivered meanwhile, and what is left of the SysEx is handed out without its
beginning. -/
theorem failed_open_cuts_sysex :
    let d : Driver (Scripted Unit) Unit := Scripted.driver .loopback none
    let history : List Step := [.openVirtualPort "in", .batch ⟨1⟩ [⟨{}, [0xF0, 0x01]⟩]]
    let now := ((ofSettings { filter := .passAll } .callback ()).run d (fun _ => true) {} history).2
    let o := now.1.openPort d now.2 9 "in"
    let later : List (PortId × List RawEvent) := [(⟨1⟩, [⟨{}, [0x02, 0xF7]⟩])]
    now.1.endpoint.link.port? = some ⟨1⟩ ∧ o.result = .error (.invalidPortIndex 9 0) ∧
      o.delivered.length = 0 ∧
      ((now.1.arrivals later).flatMap Arrival.handed).map (·.bytes) =
        [[0xF0, 0x01, 0x02, 0xF7]] ∧
      ((o.subject.arrivals later).flatMap Arrival.handed).map (·.bytes) = [[0x02, 0xF7]] :=
  ⟨by decide +kernel, rfl, by decide +kernel, by decide +kernel, by decide +kernel⟩

end Input

end PatchBay
