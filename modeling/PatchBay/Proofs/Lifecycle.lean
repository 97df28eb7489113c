import PatchBay.Endpoint
import PatchBay.Proofs.CallLog

/-!
# An endpoint keeps its calls in order

Whatever a driver answers, and whatever operations are carried out in whatever order, the calls that
an endpoint makes are in order. Between two operations its link says just what is held of the
driver. Ended by a shutdown, the calls are a sequence of sessions.
-/

namespace PatchBay

open CallLog

/-- An operation on an endpoint. -/
inductive Endpoint.Operation where
  | ensureClient
  | register (name : String) (kind : PortKind)
  | connectPort (index : Nat)
  | openPort (index : Nat) (name : String)
  | openVirtualPort (name : String)
  | closePort
  | setPortName (name : String)
  | setClientName (name : String)
  | shutdown
deriving Repr, DecidableEq

/-- What an endpoint in a link's state holds of its driver. -/
def Link.hold : Link → Hold
  | .disconnected => .nothing
  | .clientOpen c => .client c
  | .portOpen c p none => .port c p
  | .portOpen c p (some _) => .joined c p

theorem Link.permits_renamePort (c : ClientId) (p : PortId) (peer : Option Address)
    {name : String} : (Link.portOpen c p peer).hold.Permits (.renamePort c p name) := by
  cases peer with
  | none => exact .inl rfl
  | some peer => exact .inr rfl

theorem Link.permits_renameClient {link : Link} {c : ClientId} {name : String}
    (hc : link.client? = some c) : link.hold.Permits (.renameClient c name) := by
  cases link with
  | disconnected => cases hc
  | clientOpen client =>
    cases hc
    exact .inl rfl
  | portOpen client port peer =>
    cases hc
    cases peer with
    | none => exact .inr ⟨port, .inl rfl⟩
    | some peer => exact .inr ⟨port, .inr rfl⟩

namespace Outcome

variable {ω σ η α β : Type}

/-- The subject and the driver's state afterwards. -/
def final (o : Outcome ω σ η α) : ω × σ := (o.subject, o.driver)

/-- The outcome without the log of the driver's calls. -/
def unlogged (o : Outcome ω (σ × List Entry) η α) : Outcome ω σ η α :=
  { o with driver := o.driver.1 }

/-- An outcome that is what it is without a log, and whose endpoint's link says what is held. -/
structure Keeps (o : Outcome (Endpoint η) (σ × List Entry) η α)
    (plain : Outcome (Endpoint η) σ η α) : Prop where
  unlogged_eq : o.unlogged = plain
  reaches : Reaches o.driver.2 o.subject.link.hold

variable {o : Outcome (Endpoint η) (σ × List Entry) η α} {plain : Outcome (Endpoint η) σ η α}

theorem Keeps.final_eq (h : o.Keeps plain) : (o.final.1, o.final.2.1) = plain.final :=
  congrArg Outcome.final h.unlogged_eq

theorem Keeps.andThen {first : Outcome (Endpoint η) (σ × List Entry) η α}
    {plain : Outcome (Endpoint η) σ η α}
    {f : α → Endpoint η → σ × List Entry → Outcome (Endpoint η) (σ × List Entry) η β}
    {g : α → Endpoint η → σ → Outcome (Endpoint η) σ η β} (h : first.Keeps plain)
    (hsecond : ∀ a, first.result = .ok a →
      (f a first.subject first.driver).Keeps (g a first.subject first.driver.1)) :
    (first.andThen f).Keeps (plain.andThen g) := by
  obtain ⟨rfl, hreaches⟩ := h
  unfold Outcome.andThen
  cases hresult : first.result with
  | error err =>
    refine ⟨?_, hreaches⟩
    simp [unlogged, hresult]
  | ok a =>
    obtain ⟨heq, hreaches'⟩ := hsecond a hresult
    refine ⟨?_, hreaches'⟩
    simp only [unlogged, hresult] at heq ⊢
    rw [← heq]

end Outcome

namespace Endpoint

variable {σ η : Type}

def perform (d : Driver σ η) (e : Endpoint η) (s : σ) : Operation → Endpoint η × σ
  | .ensureClient => (e.ensureClient d s).final
  | .register name kind => (e.register d s name kind).final
  | .connectPort index => (e.connectPort d s index).final
  | .openPort index name => (e.openPort d s index name).final
  | .openVirtualPort name => (e.openVirtualPort d s name).final
  | .closePort => e.closePort d s
  | .setPortName name => (e.setPortName d s name).final
  | .setClientName name => (e.setClientName d s name).final
  | .shutdown => e.shutdown d s

def performAll (d : Driver σ η) (e : Endpoint η) (s : σ) (ops : List Operation) :
    Endpoint η × σ :=
  ops.foldl (fun w op => w.1.perform d w.2 op) (e, s)

variable {d : Driver σ η} {e : Endpoint η} {s : σ × List Entry} {name : String} {kind : PortKind}
  {c : ClientId} {index : Nat}

/-! ## Opening -/

theorem ensureClient_keeps (h : Reaches s.2 e.link.hold) :
    (e.ensureClient d.logged s).Keeps (e.ensureClient d s.1) ∧
      ∀ c, (e.ensureClient d.logged s).result = .ok c →
        (e.ensureClient d.logged s).subject.link.client? = some c := by
  unfold ensureClient
  cases hlink : e.link with
  | clientOpen client => exact ⟨⟨rfl, h⟩, by rintro c ⟨⟩; exact congrArg Link.client? hlink⟩
  | portOpen client port peer =>
    exact ⟨⟨rfl, h⟩, by rintro c ⟨⟩; exact congrArg Link.client? hlink⟩
  | disconnected =>
    rw [hlink] at h
    simp only [Link.client?, Driver.logged]
    cases hopened : d.openClient s.1 e.clientName with
    | mk result s' =>
      have hopen := h.note ⟨.openClient e.clientName, .of .client result⟩ rfl
      cases result with
      | error err =>
        cases err with
        | _ => exact ⟨⟨rfl, by rw [hlink]; exact hopen⟩, nofun⟩
      | ok client =>
        cases hhandler : e.handler with
        | none => exact ⟨⟨rfl, hopen⟩, by rintro c ⟨⟩; rfl⟩
        | some handler =>
          cases hset : d.setHandler s' client handler with
          | mk accepted s'' =>
            have hhandle := hopen.note ⟨.setHandler client, .of (fun _ => .done) accepted⟩ rfl
            simp only [hset]
            cases accepted with
            | error err =>
              -- the client is closed before the operation returns
              have hclose := hhandle.note ⟨.closeClient client, .done⟩ (.inr rfl)
              exact ⟨⟨rfl, by rw [hlink]; exact hclose⟩, nofun⟩
            | ok u => exact ⟨⟨rfl, hhandle⟩, by rintro c ⟨⟩; rfl⟩

theorem ensurePort_keeps (h : Reaches s.2 e.link.hold) (hc : e.link.client? = some c) :
    (e.ensurePort d.logged s c name kind).Keeps (e.ensurePort d s.1 c name kind) := by
  unfold ensurePort
  cases hlink : e.link with
  | disconnected => rw [hlink] at hc; cases hc
  | portOpen client port peer => exact ⟨rfl, h⟩
  | clientOpen client =>
    rw [hlink] at h hc
    cases hc
    simp only [Link.port?, Driver.logged]
    cases hregister : d.registerPort s.1 c name e.direction kind with
    | mk result s' =>
      have hnote := h.note ⟨.registerPort c name e.direction kind, .of .port result⟩ rfl
      cases result with
      | error err => exact ⟨rfl, by rw [hlink]; exact hnote⟩
      | ok port => exact ⟨rfl, hnote⟩

theorem register_keeps (h : Reaches s.2 e.link.hold) :
    (e.register d.logged s name kind).Keeps (e.register d s.1 name kind) := by
  unfold register
  have hcheck : e.checkName d.logged name = e.checkName d name := rfl
  rw [hcheck]
  split
  · exact ⟨rfl, h⟩
  · obtain ⟨hkeeps, hclient⟩ := ensureClient_keeps h
    exact hkeeps.andThen fun c hc => ensurePort_keeps hkeeps.reaches (hclient c hc)

theorem connectPort_keeps (h : Reaches s.2 e.link.hold) :
    (e.connectPort d.logged s index).Keeps (e.connectPort d s.1 index) := by
  unfold connectPort
  cases hlink : e.link with
  | disconnected => exact ⟨rfl, h⟩
  | clientOpen client => exact ⟨rfl, h⟩
  | portOpen client port peer =>
    cases peer with
    | some peer => exact ⟨rfl, h⟩
    | none =>
      rw [hlink] at h
      simp only [Driver.logged]
      have hlist := h.note ⟨.enumerate e.direction, .done⟩ trivial
      cases hpeer : (d.enumerate s.1 e.direction).1[index]? with
      | none => exact ⟨rfl, by rw [hlink]; exact hlist⟩
      | some peer =>
        dsimp only
        cases hconnect : d.connect (d.enumerate s.1 e.direction).2 client port peer.address with
        | mk result after =>
          have hjoin := hlist.note
            ⟨.connect client port peer.address, .of (fun _ => .done) result⟩ rfl
          cases result with
          | error err => exact ⟨rfl, by rw [hlink]; exact hjoin⟩
          | ok u => exact ⟨rfl, hjoin⟩

theorem openPort_keeps (h : Reaches s.2 e.link.hold) :
    (e.openPort d.logged s index name).Keeps (e.openPort d s.1 index name) :=
  (register_keeps h).andThen fun _ _ => connectPort_keeps (register_keeps h).reaches

theorem openVirtualPort_keeps (h : Reaches s.2 e.link.hold) :
    (e.openVirtualPort d.logged s name).Keeps (e.openVirtualPort d s.1 name) :=
  (register_keeps h).andThen fun _ _ => ⟨rfl, (register_keeps h).reaches⟩

/-! ## Closing -/

theorem closePort_keeps (h : Reaches s.2 e.link.hold) :
    ((e.closePort d.logged s).1, (e.closePort d.logged s).2.1) = e.closePort d s.1 ∧
      Reaches (e.closePort d.logged s).2.2 (e.closePort d.logged s).1.link.hold := by
  unfold closePort
  cases hlink : e.link with
  | disconnected => exact ⟨rfl, h⟩
  | clientOpen client => exact ⟨rfl, h⟩
  | portOpen client port peer =>
    rw [hlink] at h
    cases peer with
    | none => exact ⟨rfl, h.note ⟨.unregisterPort client port, .done⟩ (.inl rfl)⟩
    | some peer =>
      have hpart := h.note ⟨.disconnect client port, .done⟩ rfl
      exact ⟨rfl, hpart.note ⟨.unregisterPort client port, .done⟩ (.inr rfl)⟩

theorem closePort_link (d : Driver σ η) (e : Endpoint η) (s : σ) :
    (e.closePort d s).1.link = .disconnected ∨ ∃ c, (e.closePort d s).1.link = .clientOpen c := by
  unfold closePort
  cases hlink : e.link with
  | disconnected => exact .inl hlink
  | clientOpen client => exact .inr ⟨client, hlink⟩
  | portOpen client port peer => exact .inr ⟨client, rfl⟩

theorem shutdown_keeps (h : Reaches s.2 e.link.hold) :
    ((e.shutdown d.logged s).1, (e.shutdown d.logged s).2.1) = e.shutdown d s.1 ∧
      Reaches (e.shutdown d.logged s).2.2 .nothing ∧
      (e.shutdown d.logged s).1.link = .disconnected := by
  obtain ⟨hclosed, hreaches⟩ := closePort_keeps h
  have hlink := closePort_link d.logged e s
  unfold shutdown
  rw [← hclosed]
  generalize e.closePort d.logged s = closed at hreaches hlink
  obtain ⟨e', s'⟩ := closed
  dsimp only at hreaches hlink ⊢
  obtain hlink | ⟨c, hlink⟩ := hlink
  · rw [hlink] at hreaches ⊢
    exact ⟨rfl, hreaches, hlink⟩
  · rw [hlink] at hreaches ⊢
    exact ⟨rfl, hreaches.note ⟨.closeClient c, .done⟩ (.inl rfl), rfl⟩

/-! ## Names -/

theorem setPortName_keeps (h : Reaches s.2 e.link.hold) :
    (e.setPortName d.logged s name).Keeps (e.setPortName d s.1 name) := by
  unfold setPortName
  have hcheck : e.checkName d.logged name = e.checkName d name := rfl
  rw [hcheck]
  cases hlink : e.link with
  | disconnected => exact ⟨rfl, h⟩
  | clientOpen client => exact ⟨rfl, h⟩
  | portOpen client port peer =>
    dsimp only
    split
    · exact ⟨rfl, h⟩
    · have hnote := h.note ⟨.renamePort client port name,
        .of (fun _ => .done) (d.renamePort s.1 client port name).1⟩
        (hlink ▸ Link.permits_renamePort client port peer)
      simp only [Driver.logged]
      cases hrename : d.renamePort s.1 client port name with
      | mk result after =>
        rw [hrename] at hnote
        cases result with
        | error err => exact ⟨rfl, hnote⟩
        | ok u => exact ⟨rfl, hnote⟩

theorem setClientName_keeps (h : Reaches s.2 e.link.hold) :
    (e.setClientName d.logged s name).Keeps (e.setClientName d s.1 name) := by
  unfold setClientName
  cases hclient : e.link.client? with
  | none => exact ⟨rfl, h⟩
  | some client =>
    have hnote := h.note ⟨.renameClient client name,
      .of (fun _ => .done) (d.renameClient s.1 client name).1⟩ (Link.permits_renameClient hclient)
    simp only [Driver.logged]
    cases hrename : d.renameClient s.1 client name with
    | mk result after =>
      rw [hrename] at hnote
      cases result with
      | error err => exact ⟨rfl, hnote⟩
      | ok u => exact ⟨rfl, hnote⟩

/-! ## Running -/

/-- One operation. -/
theorem perform_keeps (op : Operation) (h : Reaches s.2 e.link.hold) :
    ((e.perform d.logged s op).1, (e.perform d.logged s op).2.1) = e.perform d s.1 op ∧
      Reaches (e.perform d.logged s op).2.2 (e.perform d.logged s op).1.link.hold := by
  cases op with
  | ensureClient =>
    have hkeeps := (ensureClient_keeps (d := d) h).1
    exact ⟨hkeeps.final_eq, hkeeps.reaches⟩
  | register name kind => exact ⟨(register_keeps h).final_eq, (register_keeps h).reaches⟩
  | connectPort index => exact ⟨(connectPort_keeps h).final_eq, (connectPort_keeps h).reaches⟩
  | openPort index name => exact ⟨(openPort_keeps h).final_eq, (openPort_keeps h).reaches⟩
  | openVirtualPort name =>
    exact ⟨(openVirtualPort_keeps h).final_eq, (openVirtualPort_keeps h).reaches⟩
  | closePort => exact closePort_keeps h
  | setPortName name => exact ⟨(setPortName_keeps h).final_eq, (setPortName_keeps h).reaches⟩
  | setClientName name => exact ⟨(setClientName_keeps h).final_eq, (setClientName_keeps h).reaches⟩
  | shutdown =>
    obtain ⟨hfinal, hreaches, hlink⟩ := shutdown_keeps (d := d) h
    refine ⟨hfinal, ?_⟩
    rw [perform, hlink]
    exact hreaches

/-- Any operations in a row. -/
theorem performAll_keeps (ops : List Operation) (h : Reaches s.2 e.link.hold) :
    ((e.performAll d.logged s ops).1, (e.performAll d.logged s ops).2.1) =
        e.performAll d s.1 ops ∧
      Reaches (e.performAll d.logged s ops).2.2 (e.performAll d.logged s ops).1.link.hold := by
  induction ops generalizing e s with
  | nil => exact ⟨rfl, h⟩
  | cons op ops ih =>
    obtain ⟨hfinal, hreaches⟩ := perform_keeps (d := d) op h
    obtain ⟨hrest, hend⟩ := ih hreaches
    refine ⟨?_, hend⟩
    have hplain : e.performAll d s.1 (op :: ops) =
        (e.perform d s.1 op).1.performAll d (e.perform d s.1 op).2 ops := rfl
    rw [hplain, ← hfinal]
    exact hrest

/-- **An endpoint gives back what it takes.** A new endpoint carries out some operations and is then
dropped, over a driver that answers each call as it likes. Keeping a log of the calls changes
nothing else. After the operations the log is in order and what is held is what the link says, which
has a port where it has a peer and a client where it has a port. After the drop the log is in order,
nothing is held, and the calls are a sequence of sessions. -/
theorem performAll_in_order (d : Driver σ η) (direction : Direction) (clientName : String)
    (handler : Option η) (s : σ) (ops : List Operation) :
    let e : Endpoint η := { direction, clientName, handler }
    let run := e.performAll d.logged (s, []) ops
    let dropped := run.1.shutdown d.logged run.2
    ((run.1, run.2.1) = e.performAll d s ops ∧
      (dropped.1, dropped.2.1) = run.1.shutdown d run.2.1) ∧
    (Reaches run.2.2 run.1.link.hold ∧
      (run.1.link.peer?.isSome → run.1.link.port?.isSome) ∧
      (run.1.link.port?.isSome → run.1.link.client?.isSome)) ∧
    Reaches dropped.2.2 .nothing ∧
    ∃ sessions : List Session,
      dropped.2.2.filterMap Entry.mark? = sessions.flatMap Session.marks := by
  intro e run dropped
  have hstart : Reaches [] e.link.hold := reaches_nil
  obtain ⟨hrun, hreaches⟩ := performAll_keeps (d := d) (s := (s, [])) ops hstart
  obtain ⟨hdropped, hend, -⟩ := shutdown_keeps (d := d) hreaches
  refine ⟨⟨hrun, hdropped⟩, ⟨hreaches, ?_, ?_⟩, hend, hend.sessions⟩
  · cases run.1.link <;> simp [Link.peer?, Link.port?]
  · cases run.1.link <;> simp [Link.port?, Link.client?]

end Endpoint

end PatchBay
