import PatchBay.Proofs.Lifecycle

/-!
# Drivers that keep something beside

A driver that keeps something of its own beside the state of another, and answers every call as that
one does. To an endpoint the two are the same: its operations come to the same results, the same
warnings and the same deliveries, and leave the endpoint and the other's state alike.
-/

namespace PatchBay

/-- A driver whose state holds the state of another, and which answers as that one does. -/
structure Driver.Answers {σ τ η : Type} (d' : Driver τ η) (d : Driver σ η) (state : τ → σ) :
    Prop where
  nameLimit_eq : d'.nameLimit = d.nameLimit
  openClient_eq : ∀ w name, d.openClient (state w) name =
    ((d'.openClient w name).1, state (d'.openClient w name).2)
  closeClient_eq : ∀ w client, d.closeClient (state w) client = state (d'.closeClient w client)
  setHandler_eq : ∀ w client handler, d.setHandler (state w) client handler =
    ((d'.setHandler w client handler).1, state (d'.setHandler w client handler).2)
  renameClient_eq : ∀ w client name, d.renameClient (state w) client name =
    ((d'.renameClient w client name).1, state (d'.renameClient w client name).2)
  registerPort_eq : ∀ w client name direction kind,
    d.registerPort (state w) client name direction kind =
      ((d'.registerPort w client name direction kind).1,
        state (d'.registerPort w client name direction kind).2)
  unregisterPort_eq : ∀ w client port,
    d.unregisterPort (state w) client port = state (d'.unregisterPort w client port)
  renamePort_eq : ∀ w client port name, d.renamePort (state w) client port name =
    ((d'.renamePort w client port name).1, state (d'.renamePort w client port name).2)
  enumerate_eq : ∀ w direction, d.enumerate (state w) direction =
    ((d'.enumerate w direction).1, state (d'.enumerate w direction).2)
  connect_eq : ∀ w client port peer, d.connect (state w) client port peer =
    ((d'.connect w client port peer).1, (d'.connect w client port peer).2.1,
      state (d'.connect w client port peer).2.2)
  disconnect_eq : ∀ w client port,
    d.disconnect (state w) client port = state (d'.disconnect w client port)
  transmit_eq : ∀ w client port bytes e, d.transmit (state w) client port bytes e =
    ((d'.transmit w client port bytes e).1, (d'.transmit w client port bytes e).2.1,
      state (d'.transmit w client port bytes e).2.2)
  drain_eq : ∀ w client,
    d.drain (state w) client = ((d'.drain w client).1, state (d'.drain w client).2)

/-- A log of the calls is kept beside. -/
theorem Driver.answers_logged {σ η : Type} (d : Driver σ η) : d.logged.Answers d Prod.fst := by
  constructor <;> intros <;> rfl

namespace Outcome

variable {ω σ τ η α β : Type}

/-- The outcome with a part of the driver's state only. -/
def mapDriver (f : τ → σ) (o : Outcome ω τ η α) : Outcome ω σ η α := { o with driver := f o.driver }

theorem mapDriver_andThen {state : τ → σ} {first : Outcome ω τ η α} {plain : Outcome ω σ η α}
    {f : α → ω → τ → Outcome ω τ η β} {g : α → ω → σ → Outcome ω σ η β}
    (hfirst : first.mapDriver state = plain)
    (hsecond : ∀ a, (f a first.subject first.driver).mapDriver state =
      g a first.subject (state first.driver)) :
    (first.andThen f).mapDriver state = plain.andThen g := by
  subst hfirst
  unfold andThen mapDriver
  dsimp only
  cases first.result with
  | error err => rfl
  | ok a =>
    dsimp only
    rw [← hsecond a]
    rfl

/-- The outcome of which only is known whether it is a success. -/
def discard (o : Outcome ω σ η α) : Outcome ω σ η Unit :=
  { o with result := o.result.map fun _ => () }

end Outcome

namespace Endpoint

variable {σ τ η : Type} {d' : Driver τ η} {d : Driver σ η} {state : τ → σ}

/-- An operation with all that comes of it. Closing cannot fail. -/
def attempt (d : Driver σ η) (e : Endpoint η) (s : σ) : Operation → Outcome (Endpoint η) σ η Unit
  | .ensureClient => (e.ensureClient d s).discard
  | .register name kind => (e.register d s name kind).discard
  | .connectPort index => e.connectPort d s index
  | .openPort index name => e.openPort d s index name
  | .openVirtualPort name => e.openVirtualPort d s name
  | .closePort =>
    { result := .ok (), subject := (e.closePort d s).1, driver := (e.closePort d s).2 }
  | .setPortName name => e.setPortName d s name
  | .setClientName name => e.setClientName d s name
  | .shutdown => { result := .ok (), subject := (e.shutdown d s).1, driver := (e.shutdown d s).2 }

theorem attempt_final (d : Driver σ η) (e : Endpoint η) (s : σ) (op : Operation) :
    (e.attempt d s op).final = e.perform d s op := by
  cases op <;> rfl

/-! ## Operations over the one and the other -/

theorem checkName_answers (h : d'.Answers d state) (e : Endpoint η) (name : String) :
    e.checkName d' name = e.checkName d name := by
  unfold checkName
  rw [h.nameLimit_eq]

theorem ensureClient_answers (h : d'.Answers d state) (e : Endpoint η) (w : τ) :
    (e.ensureClient d' w).mapDriver state = e.ensureClient d (state w) := by
  unfold ensureClient
  cases e.link.client? with
  | some client => rfl
  | none =>
    dsimp only
    rw [h.openClient_eq]
    cases d'.openClient w e.clientName with
    | mk result w' =>
      cases result with
      | error err => cases err <;> rfl
      | ok client =>
        cases e.handler with
        | none => rfl
        | some handler =>
          dsimp only
          rw [h.setHandler_eq]
          cases d'.setHandler w' client handler with
          | mk accepted w'' =>
            cases accepted with
            | error err =>
              -- the client is closed again, over both
              dsimp only
              rw [h.closeClient_eq]
              rfl
            | ok u => rfl

theorem ensurePort_answers (h : d'.Answers d state) (e : Endpoint η) (w : τ) (client : ClientId)
    (name : String) (kind : PortKind) :
    (e.ensurePort d' w client name kind).mapDriver state =
      e.ensurePort d (state w) client name kind := by
  unfold ensurePort
  cases e.link.port? with
  | some port => rfl
  | none =>
    dsimp only
    rw [h.registerPort_eq]
    cases d'.registerPort w client name e.direction kind with
    | mk result w' => cases result <;> rfl

theorem register_answers (h : d'.Answers d state) (e : Endpoint η) (w : τ) (name : String)
    (kind : PortKind) :
    (e.register d' w name kind).mapDriver state = e.register d (state w) name kind := by
  unfold register
  rw [checkName_answers h]
  cases e.checkName d name with
  | error err => rfl
  | ok u =>
    exact Outcome.mapDriver_andThen (ensureClient_answers h e w) fun client =>
      ensurePort_answers h _ _ client name kind

theorem connectPort_answers (h : d'.Answers d state) (e : Endpoint η) (w : τ) (index : Nat) :
    (e.connectPort d' w index).mapDriver state = e.connectPort d (state w) index := by
  unfold connectPort
  cases e.link with
  | disconnected | clientOpen => rfl
  | portOpen client port peer =>
    cases peer with
    | some peer => rfl
    | none =>
      have hlist := h.enumerate_eq w e.direction
      cases hlisted : d'.enumerate w e.direction with
      | mk peers w' =>
        rw [hlisted] at hlist
        simp only [hlist]
        cases peers[index]? with
        | none => rfl
        | some peer =>
          dsimp only
          rw [h.connect_eq]
          cases d'.connect w' client port peer.address with
          | mk result after => cases result <;> rfl

theorem closePort_answers (h : d'.Answers d state) (e : Endpoint η) (w : τ) :
    e.closePort d (state w) = ((e.closePort d' w).1, state (e.closePort d' w).2) := by
  unfold closePort
  cases e.link with
  | disconnected | clientOpen => rfl
  | portOpen client port peer =>
    cases peer with
    | none =>
      dsimp only
      rw [← h.unregisterPort_eq]
      rfl
    | some peer =>
      dsimp only
      rw [← h.unregisterPort_eq, Option.isSome_some, if_pos rfl, if_pos rfl, h.disconnect_eq]

theorem shutdown_answers (h : d'.Answers d state) (e : Endpoint η) (w : τ) :
    e.shutdown d (state w) = ((e.shutdown d' w).1, state (e.shutdown d' w).2) := by
  unfold shutdown
  -- both are left with the same endpoint, so with the same client to close or with none
  rw [closePort_answers h]
  cases e.closePort d' w with
  | mk e' w' =>
    dsimp only
    cases e'.link.client? with
    | none => rfl
    | some client =>
      dsimp only
      rw [h.closeClient_eq]

theorem setPortName_answers (h : d'.Answers d state) (e : Endpoint η) (w : τ) (name : String) :
    (e.setPortName d' w name).mapDriver state = e.setPortName d (state w) name := by
  unfold setPortName
  rw [checkName_answers h]
  cases e.link with
  | disconnected | clientOpen => rfl
  | portOpen client port peer =>
    dsimp only
    cases e.checkName d name with
    | error err => rfl
    | ok u =>
      dsimp only
      rw [h.renamePort_eq]
      cases d'.renamePort w client port name with
      | mk result w' => cases result <;> rfl

theorem setClientName_answers (h : d'.Answers d state) (e : Endpoint η) (w : τ) (name : String) :
    (e.setClientName d' w name).mapDriver state = e.setClientName d (state w) name := by
  unfold setClientName
  cases e.link.client? with
  | none => rfl
  | some client =>
    dsimp only
    rw [h.renameClient_eq]
    cases d'.renameClient w client name with
    | mk result w' => cases result <;> rfl

/-- An operation comes to the same. -/
theorem attempt_answers (h : d'.Answers d state) (e : Endpoint η) (w : τ) (op : Operation) :
    (e.attempt d' w op).mapDriver state = e.attempt d (state w) op := by
  have hdiscard : ∀ {α : Type} {o : Outcome (Endpoint η) τ η α} {plain},
      o.mapDriver state = plain → o.discard.mapDriver state = plain.discard := by
    rintro α o plain rfl
    rfl
  cases op with
  | ensureClient => exact hdiscard (ensureClient_answers h e w)
  | register name kind => exact hdiscard (register_answers h e w name kind)
  | connectPort index => exact connectPort_answers h e w index
  | openPort index name =>
    unfold attempt openPort
    refine Outcome.mapDriver_andThen (register_answers h e w name .connectable) fun port => ?_
    exact connectPort_answers h _ _ index
  | openVirtualPort name =>
    unfold attempt openVirtualPort
    refine Outcome.mapDriver_andThen (register_answers h e w name .virtual) fun port => ?_
    rfl
  | closePort =>
    unfold attempt
    rw [closePort_answers h]
    rfl
  | setPortName name => exact setPortName_answers h e w name
  | setClientName name => exact setClientName_answers h e w name
  | shutdown =>
    unfold attempt
    rw [shutdown_answers h]
    rfl

/-- Any operations in a row come to the same. -/
theorem performAll_answers (h : d'.Answers d state) (e : Endpoint η) (w : τ)
    (ops : List Operation) :
    e.performAll d (state w) ops =
      ((e.performAll d' w ops).1, state (e.performAll d' w ops).2) := by
  induction ops generalizing e w with
  | nil => rfl
  | cons op ops ih =>
    have hone : e.perform d (state w) op =
        ((e.perform d' w op).1, state (e.perform d' w op).2) := by
      rw [← attempt_final, ← attempt_final, ← attempt_answers h]
      rfl
    calc e.performAll d (state w) (op :: ops)
        = (e.perform d (state w) op).1.performAll d (e.perform d (state w) op).2 ops := rfl
      _ = (e.perform d' w op).1.performAll d (state (e.perform d' w op).2) ops := by rw [hone]
      _ = _ := ih _ _

end Endpoint

end PatchBay
