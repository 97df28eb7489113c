import PatchBay.Proofs.Patch

/-!
# The gate of an input

Between two operations of an input, and already while the driver makes a connection for it, its gate
stands open for the port that its endpoint has registered, and for no other. What has arrived before
the port is closed and was not handed out by then is forgotten: the gate counts its openings, and
the first batch after an opening finds an assembler that has not seen it.
-/

namespace PatchBay

/-! ## The port that an endpoint has registered -/

theorem Link.port?_of_client? {link : Link} (h : link.client? = none) : link.port? = none := by
  cases link with
  | disconnected => rfl
  | clientOpen | portOpen => cases h

namespace Endpoint

variable {σ η : Type} {d : Driver σ η} {e : Endpoint η} {s : σ} {client : ClientId} {port : PortId}
  {name : String} {kind : PortKind} {index : Nat}

/-- A registration delivers nothing. It gives the port that the endpoint then has, or fails and
leaves the endpoint with the port that it had. -/
structure Registers (e : Endpoint η) (o : Outcome (Endpoint η) σ η PortId) : Prop where
  quiet : o.delivered = []
  ok : ∀ port, o.result = .ok port → o.subject.link.port? = some port
  error : ∀ err, o.result = .error err → o.subject.link.port? = e.link.port?

theorem ensureClient_quiet (d : Driver σ η) (e : Endpoint η) (s : σ) :
    (e.ensureClient d s).delivered = [] ∧
      (e.ensureClient d s).subject.link.port? = e.link.port? := by
  unfold ensureClient
  cases hclient : e.link.client? with
  | some client => exact ⟨rfl, rfl⟩
  | none =>
    have hport := Link.port?_of_client? hclient
    dsimp only
    split
    · exact ⟨rfl, rfl⟩
    · exact ⟨rfl, rfl⟩
    split
    · exact ⟨rfl, hport.symm⟩
    split
    · exact ⟨rfl, rfl⟩
    · exact ⟨rfl, hport.symm⟩

theorem ensurePort_registers (d : Driver σ η) (e : Endpoint η) (s : σ) (client : ClientId)
    (name : String) (kind : PortKind) : e.Registers (e.ensurePort d s client name kind) := by
  unfold ensurePort
  cases hport : e.link.port? with
  | some port =>
    refine ⟨rfl, fun p hp => ?_, nofun⟩
    cases hp
    exact hport
  | none =>
    dsimp only
    split
    · exact ⟨rfl, nofun, fun _ _ => rfl⟩
    · refine ⟨rfl, fun p hp => ?_, nofun⟩
      cases hp
      rfl

theorem register_registers (d : Driver σ η) (e : Endpoint η) (s : σ) (name : String)
    (kind : PortKind) : e.Registers (e.register d s name kind) := by
  unfold register
  split
  · exact ⟨rfl, nofun, fun _ _ => rfl⟩
  obtain ⟨hquiet, hport⟩ := ensureClient_quiet d e s
  unfold Outcome.andThen
  split
  · refine ⟨hquiet, nofun, fun _ _ => hport⟩
  · rename_i client _
    obtain ⟨hquiet', hok, herror⟩ := ensurePort_registers d (e.ensureClient d s).subject
      (e.ensureClient d s).driver client name kind
    refine ⟨?_, hok, fun err herr => (herror err herr).trans hport⟩
    dsimp only
    rw [hquiet, hquiet', List.append_nil]

/-- Where there is a port, registering checks the name and does nothing else. -/
theorem register_of_port (hport : e.link.port? = some port) :
    e.register d s name kind =
      match e.checkName d name with
      | .error err => { result := .error err, subject := e, driver := s }
      | .ok () => { result := .ok port, subject := e, driver := s } := by
  cases hclient : e.link.client? with
  | none =>
    rw [Link.port?_of_client? hclient] at hport
    cases hport
  | some client =>
    have hfirst : e.ensureClient d s = { result := .ok client, subject := e, driver := s } := by
      rw [ensureClient, hclient]
    rw [register, hfirst]
    cases e.checkName d name with
    | error err => rfl
    | ok u => simp only [Outcome.andThen, ensurePort, hport, List.append_nil]

/-- Where there is a port, registering changes nothing. -/
theorem register_again (hport : e.link.port? = some port) :
    (e.register d s name kind).subject = e := by
  rw [register_of_port hport]
  split <;> rfl

theorem link_of_isConnected (h : e.isConnected = true) :
    ∃ client port peer, e.link = .portOpen client port (some peer) := by
  unfold isConnected at h
  cases hlink : e.link with
  | portOpen client port peer =>
    rw [hlink] at h
    obtain ⟨found, rfl⟩ := Option.isSome_iff_exists.mp h
    exact ⟨client, port, found, rfl⟩
  | _ =>
    rw [hlink] at h
    cases h

/-- Opening a port that is connected already changes nothing. -/
theorem openPort_again (h : e.isConnected = true) :
    (e.openPort d s index name).subject = e ∧ (e.openPort d s index name).delivered = [] := by
  obtain ⟨client, port, peer, hlink⟩ := link_of_isConnected h
  have hport : e.link.port? = some port := by
    rw [hlink]
    rfl
  obtain ⟨hquiet, -, -⟩ := register_registers d e s name .connectable
  have hsame : (e.register d s name .connectable).subject = e := register_again hport
  unfold openPort Outcome.andThen
  split
  · exact ⟨hsame, hquiet⟩
  · dsimp only
    rw [hsame, hquiet, connectPort, hlink]
    exact ⟨rfl, rfl⟩

theorem connectPort_port? (d : Driver σ η) (e : Endpoint η) (s : σ) (index : Nat) :
    (e.connectPort d s index).subject.link.port? = e.link.port? := by
  unfold connectPort
  split
  · rfl
  · rename_i client port hlink
    dsimp only
    split
    · rfl
    split
    · rfl
    · rw [hlink]
      rfl
  · rfl

theorem closePort_port? (d : Driver σ η) (e : Endpoint η) (s : σ) :
    (e.closePort d s).1.link.port? = none := by
  unfold closePort
  split
  · rfl
  · rename_i hclosed
    cases hlink : e.link with
    | portOpen client port peer => exact absurd hlink (hclosed client port peer)
    | _ => simp [Link.port?]

theorem shutdown_port? (d : Driver σ η) (e : Endpoint η) (s : σ) :
    (e.shutdown d s).1.link.port? = none := by
  unfold shutdown
  dsimp only
  split
  · rfl
  · exact closePort_port? d e s

theorem setPortName_link (d : Driver σ η) (e : Endpoint η) (s : σ) (name : String) :
    (e.setPortName d s name).subject.link = e.link := by
  unfold setPortName
  repeat' split
  all_goals rfl

theorem setClientName_link (d : Driver σ η) (e : Endpoint η) (s : σ) (name : String) :
    (e.setClientName d s name).subject.link = e.link := by
  unfold setClientName
  repeat' split
  all_goals rfl

end Endpoint

namespace Input

variable {σ η : Type} {d : Driver σ η} {i j : Input η} {s : σ} {port : PortId} {name : String}
  {kind : PortKind} {index : Nat} {events : List RawEvent}

/-! ## The gate stands open for the registered port -/

/-- The gate stands open for the port that the endpoint has registered, and for no other. -/
def Guarded (i : Input η) : Prop := i.gate.active = i.endpoint.link.port?

/-- An input whose port has been registered, or could not be. -/
def registered (d : Driver σ η) (i : Input η) (s : σ) (name : String) (kind : PortKind) :
    Input η :=
  let registration := i.endpoint.register d s name kind
  match registration.result with
  | .ok port => (i.withEndpoint registration.subject).activate port
  | .error _ => i.withEndpoint registration.subject

/-- An input as the driver finds it while it makes a connection for it. -/
def connecting (d : Driver σ η) (i : Input η) (s : σ) (name : String) : Input η :=
  if i.endpoint.isConnected then i else i.registered d s name .connectable

theorem receiveAll_withEndpoint (i : Input η) (e : Endpoint η)
    (batches : List (PortId × List RawEvent)) :
    (i.withEndpoint e).receiveAll batches = (i.receiveAll batches).withEndpoint e := by
  induction batches generalizing i with
  | nil => rfl
  | cons x batches ih => exact ih (i.receive x.1 x.2)

/-- Opening a port is what it is for the endpoint. The gate is moved before the connection is made,
and what is heard meanwhile is received through the gate as it stands then. -/
theorem openPort_eq (d : Driver σ η) (i : Input η) (s : σ) (index : Nat) (name : String)
    (hear : List (Delivery η) → List (PortId × List RawEvent)) (hquiet : hear [] = []) :
    i.openPort d s index name hear =
      (i.endpoint.openPort d s index name).within
        ((i.connecting d s name).receiveAll
          (hear (i.endpoint.openPort d s index name).delivered)).withEndpoint := by
  unfold openPort connecting
  split
  · rename_i hconnected
    rw [(Endpoint.openPort_again hconnected).2, hquiet]
    rfl
  · obtain ⟨hsilent, -, -⟩ := Endpoint.register_registers d i.endpoint s name .connectable
    unfold Endpoint.openPort registered Outcome.within Outcome.andThen
    dsimp only
    cases (i.endpoint.register d s name .connectable).result with
    | error err =>
      dsimp only
      rw [hsilent, hquiet]
      rfl
    | ok port =>
      dsimp only
      rw [hsilent, List.nil_append]
      rfl

/-- It makes no difference whether the input hears of a batch while the connection is made or once
the call has returned. -/
theorem openPort_hear (d : Driver σ η) (i : Input η) (s : σ) (index : Nat) (name : String)
    (hear : List (Delivery η) → List (PortId × List RawEvent)) (hquiet : hear [] = []) :
    let unheard := i.openPort d s index name
    i.openPort d s index name hear =
      { unheard with subject := unheard.subject.receiveAll (hear unheard.delivered) } := by
  intro unheard
  have hunheard : unheard =
      (i.endpoint.openPort d s index name).within (i.connecting d s name).withEndpoint :=
    openPort_eq d i s index name (fun _ => []) rfl
  rw [hunheard, openPort_eq d i s index name hear hquiet]
  unfold Outcome.within
  dsimp only
  rw [receiveAll_withEndpoint]

theorem openVirtualPort_eq (d : Driver σ η) (i : Input η) (s : σ) (name : String) :
    (i.openVirtualPort d s name).subject = i.registered d s name .virtual ∧
      (i.openVirtualPort d s name).driver = (i.endpoint.openVirtualPort d s name).driver := by
  unfold openVirtualPort Endpoint.openVirtualPort registered Outcome.within Outcome.andThen
  dsimp only
  cases (i.endpoint.register d s name .virtual).result <;> exact ⟨rfl, rfl⟩

theorem registered_guarded (h : i.Guarded) (d : Driver σ η) (s : σ) (name : String)
    (kind : PortKind) : (i.registered d s name kind).Guarded := by
  obtain ⟨-, hok, herror⟩ := Endpoint.register_registers d i.endpoint s name kind
  unfold registered Guarded
  dsimp only
  split
  · rename_i port hresult
    exact (hok port hresult).symm
  · rename_i err hresult
    exact h.trans (herror err hresult).symm

theorem connecting_guarded (h : i.Guarded) (d : Driver σ η) (s : σ) (name : String) :
    (i.connecting d s name).Guarded := by
  unfold connecting
  split
  · exact h
  · exact registered_guarded h d s name .connectable

/-- Connecting leaves the registered port as it is. -/
theorem openPort_port? (d : Driver σ η) (i : Input η) (s : σ) (index : Nat) (name : String) :
    (i.endpoint.openPort d s index name).subject.link.port? =
      (i.connecting d s name).endpoint.link.port? := by
  unfold connecting
  split
  · rename_i hconnected
    rw [(Endpoint.openPort_again hconnected).1]
  · unfold Endpoint.openPort Outcome.andThen registered
    dsimp only
    split
    · rename_i err hresult
      rw [hresult]
      rfl
    · rename_i port hresult
      rw [hresult]
      exact Endpoint.connectPort_port? d _ _ index

end Input

/-! ## What arrives at an input -/

/-- A batch that arrives, and what it does: what comes of the input if the batches before it arrive
and this one does not, and what comes of the input if this one arrives as well. -/
structure Arrival (η : Type) where
  input : Input η
  port : PortId
  events : List RawEvent
  after : Input η

namespace Arrival

variable {η : Type}

/-- The fragments of the batch, if it is for the port that is registered. -/
def admitted (x : Arrival η) : List RawEvent :=
  if x.input.endpoint.link.port? = some x.port then x.events else []

/-- The messages that are handed to the input's sink. -/
def handed (x : Arrival η) : List Message :=
  if x.input.gate.active = some x.port then
    (x.input.assembler.notice x.input.gate.opening).handed x.events
  else []

end Arrival

namespace Input

/-- Something that an input is told to do, or a batch that the driver delivers between two
operations. -/
inductive Step where
  /-- The readings of the clock are for what is delivered meanwhile. -/
  | openPort (index : Nat) (name : String) (clock : Nat → Time)
  | openVirtualPort (name : String)
  | closePort
  | setPortName (name : String)
  | setClientName (name : String)
  | listPorts
  | next
  | shutdown
  | batch (port : PortId) (events : List RawEvent)

/-- How often a step may open the gate. -/
def Step.openings : Step → Nat
  | .openPort .. | .openVirtualPort _ => 1
  | _ => 0

/-- How often steps in a row may open the gate. -/
def openings : List Step → Nat
  | [] => 0
  | step :: steps => step.openings + openings steps

variable {σ η : Type}

/-- Batches with successive readings of a clock. -/
def timed (clock : Nat → Time) : Nat → List (Delivery η) → List (PortId × List RawEvent)
  | _, [] => []
  | n, d :: deliveries =>
    (d.port, Patch.stampAll clock n d.events) :: timed clock (n + d.events.length) deliveries

/-- The batches of a step. A driver may deliver to `ours` or to others. -/
def batches (d : Driver σ η) (ours : η → Bool) (i : Input η) (s : σ) :
    Step → List (PortId × List RawEvent)
  | .openPort index name clock =>
    timed clock 0 ((i.openPort d s index name).delivered.filter (ours ·.handler))
  | .batch port events => [(port, events)]
  | _ => []

/-- The input and the driver's state after a step, if of its batches the first `n` arrive and the
others are lost. Those that the driver delivers while it makes a connection arrive right then. -/
def performUpTo (d : Driver σ η) (ours : η → Bool) (i : Input η) (s : σ) (n : Nat) :
    Step → Input η × σ
  | .openPort index name clock =>
    let o := i.openPort d s index name fun delivered =>
      (timed clock 0 (delivered.filter (ours ·.handler))).take n
    (o.subject, o.driver)
  | .openVirtualPort name =>
    ((i.openVirtualPort d s name).subject, (i.openVirtualPort d s name).driver)
  | .closePort => i.closePort d s
  | .setPortName name => ((i.setPortName d s name).subject, (i.setPortName d s name).driver)
  | .setClientName name => ((i.setClientName d s name).subject, (i.setClientName d s name).driver)
  | .listPorts => (i, (i.endpoint.ports d s).2)
  | .next => (i.next.2, s)
  | .shutdown => i.shutdown d s
  | .batch port events => (i.receiveAll ([(port, events)].take n), s)

/-- The input and the driver's state after a step. -/
def perform (d : Driver σ η) (ours : η → Bool) (i : Input η) (s : σ) (step : Step) : Input η × σ :=
  i.performUpTo d ours s (i.batches d ours s step).length step

/-- What arrives in a step. -/
def arriving (d : Driver σ η) (ours : η → Bool) (i : Input η) (s : σ) (step : Step) :
    List (Arrival η) :=
  (i.batches d ours s step).zipIdx.map fun (x, n) =>
    ⟨(i.performUpTo d ours s n step).1, x.1, x.2, (i.performUpTo d ours s (n + 1) step).1⟩

/-- What arrives in some steps in a row, and the input and the driver's state after them. -/
def run (d : Driver σ η) (ours : η → Bool) (i : Input η) (s : σ) :
    List Step → List (Arrival η) × Input η × σ
  | [] => ([], i, s)
  | step :: steps =>
    let after := i.perform d ours s step
    let rest := run d ours after.1 after.2 steps
    (i.arriving d ours s step ++ rest.1, rest.2)

/-- The arrival of a batch between two operations. -/
def meets (i : Input η) (port : PortId) (events : List RawEvent) : Arrival η :=
  ⟨i, port, events, i.receive port events⟩

/-- The arrivals of batches in a row between two operations. -/
def arrivals (i : Input η) : List (PortId × List RawEvent) → List (Arrival η)
  | [] => []
  | x :: batches => i.meets x.1 x.2 :: arrivals (i.receive x.1 x.2) batches

variable {d : Driver σ η} {ours : η → Bool} {i j : Input η} {s : σ} {step : Step} {port : PortId}
  {events : List RawEvent}

theorem run_append (d : Driver σ η) (ours : η → Bool) (i : Input η) (s : σ)
    (first later : List Step) :
    i.run d ours s (first ++ later) =
      ((i.run d ours s first).1 ++
          ((i.run d ours s first).2.1.run d ours (i.run d ours s first).2.2 later).1,
        ((i.run d ours s first).2.1.run d ours (i.run d ours s first).2.2 later).2) := by
  induction first generalizing i s with
  | nil => rfl
  | cons step first ih => simp only [List.cons_append, run, ih, List.append_assoc]

/-! ## The batches of a step come after it -/

/-- However many batches of a step arrive, it comes to what it comes to without them, and then to
what they come to. -/
theorem performUpTo_eq (d : Driver σ η) (ours : η → Bool) (i : Input η) (s : σ) (n : Nat)
    (step : Step) :
    i.performUpTo d ours s n step =
      ((i.performUpTo d ours s 0 step).1.receiveAll ((i.batches d ours s step).take n),
        (i.performUpTo d ours s 0 step).2) := by
  cases step with
  | openPort index name clock =>
    have hmeanwhile (m : Nat) := openPort_hear d i s index name
      (fun delivered => (timed clock 0 (delivered.filter (ours ·.handler))).take m) List.take_nil
    simp only [performUpTo, batches, hmeanwhile, List.take_zero]
  | batch port events => rfl
  | _ => simp only [performUpTo, batches, List.take_nil, receiveAll, List.foldl_nil]

theorem perform_eq (d : Driver σ η) (ours : η → Bool) (i : Input η) (s : σ) (step : Step) :
    i.perform d ours s step =
      ((i.performUpTo d ours s 0 step).1.receiveAll (i.batches d ours s step),
        (i.performUpTo d ours s 0 step).2) := by
  rw [perform, performUpTo_eq, List.take_length]

theorem arrivals_eq (i : Input η) (batches : List (PortId × List RawEvent)) :
    i.arrivals batches = batches.zipIdx.map fun (x, n) =>
      ⟨i.receiveAll (batches.take n), x.1, x.2, i.receiveAll (batches.take (n + 1))⟩ := by
  induction batches generalizing i with
  | nil => rfl
  | cons x batches ih =>
    rw [arrivals, ih, List.zipIdx_cons, List.zipIdx_succ, List.map_cons, List.map_map]
    rfl

theorem arriving_eq (d : Driver σ η) (ours : η → Bool) (i : Input η) (s : σ) (step : Step) :
    i.arriving d ours s step =
      (i.performUpTo d ours s 0 step).1.arrivals (i.batches d ours s step) := by
  rw [arriving, arrivals_eq]
  refine List.map_congr_left fun (x, n) _ => ?_
  dsimp only
  rw [performUpTo_eq d ours i s n, performUpTo_eq d ours i s (n + 1)]

/-- A step of a run: first what it comes to without its batches, and then the batches. -/
theorem run_cons (d : Driver σ η) (ours : η → Bool) (i : Input η) (s : σ) (step : Step)
    (steps : List Step) :
    let unheard := i.performUpTo d ours s 0 step
    let batches := i.batches d ours s step
    let rest := (unheard.1.receiveAll batches).run d ours unheard.2 steps
    i.run d ours s (step :: steps) = (unheard.1.arrivals batches ++ rest.1, rest.2) := by
  intro unheard batches rest
  rw [run, arriving_eq, perform_eq]

/-! ## Every batch finds the gate at the registered port -/

theorem Guarded.receive (h : i.Guarded) (port : PortId) (events : List RawEvent) :
    (i.receive port events).Guarded := h

theorem Guarded.receiveAll (h : i.Guarded) (batches : List (PortId × List RawEvent)) :
    (i.receiveAll batches).Guarded := by
  induction batches generalizing i with
  | nil => exact h
  | cons x batches ih => exact ih (h.receive x.1 x.2)

theorem Guarded.arrivals (h : i.Guarded) (batches : List (PortId × List RawEvent)) :
    ∀ x ∈ i.arrivals batches, x.input.Guarded ∧ x.after = x.input.receive x.port x.events := by
  induction batches generalizing i with
  | nil => exact fun x hx => absurd hx List.not_mem_nil
  | cons y batches ih =>
    intro x hx
    rcases List.mem_cons.mp hx with rfl | hx
    · exact ⟨h, rfl⟩
    · exact ih (h.receive y.1 y.2) x hx

theorem Guarded.performUpTo (h : i.Guarded) (d : Driver σ η) (ours : η → Bool) (s : σ) (n : Nat)
    (step : Step) : (i.performUpTo d ours s n step).1.Guarded := by
  rw [performUpTo_eq]
  refine receiveAll ?_ _
  cases step with
  | openPort index name clock =>
    change (i.openPort d s index name).subject.Guarded
    rw [openPort_eq d i s index name _ rfl]
    exact (connecting_guarded h d s name).trans (openPort_port? d i s index name).symm
  | openVirtualPort name =>
    rw [Input.performUpTo, (openVirtualPort_eq d i s name).1]
    exact registered_guarded h d s name .virtual
  | closePort => exact (Endpoint.closePort_port? d i.endpoint s).symm
  | shutdown => exact (Endpoint.shutdown_port? d i.endpoint s).symm
  | setPortName name =>
    exact h.trans (congrArg Link.port? (Endpoint.setPortName_link d i.endpoint s name)).symm
  | setClientName name =>
    exact h.trans (congrArg Link.port? (Endpoint.setClientName_link d i.endpoint s name)).symm
  | _ => exact h

/-- Every batch of a run finds the gate at the registered port, and does what it does to the input
that it finds. -/
theorem Guarded.run (h : i.Guarded) (d : Driver σ η) (ours : η → Bool) (s : σ)
    (steps : List Step) : ∀ x ∈ (i.run d ours s steps).1,
      x.input.Guarded ∧ x.after = x.input.receive x.port x.events := by
  induction steps generalizing i s with
  | nil => exact fun x hx => absurd hx List.not_mem_nil
  | cons step steps ih =>
    intro x hx
    have hstep := h.performUpTo d ours s 0 step
    rw [run_cons] at hx
    rcases List.mem_append.mp hx with hx | hx
    · exact hstep.arrivals _ x hx
    · exact ih (hstep.receiveAll _) _ x hx

theorem Guarded.run_after (h : i.Guarded) (d : Driver σ η) (ours : η → Bool) (s : σ)
    (steps : List Step) : (i.run d ours s steps).2.1.Guarded := by
  induction steps generalizing i s with
  | nil => exact h
  | cons step steps ih => exact ih (h.performUpTo d ours s _ step) _

end Input

end PatchBay
