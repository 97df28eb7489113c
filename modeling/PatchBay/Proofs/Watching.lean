import Mathlib.Data.List.Induction
import Mathlib.Logic.Relation
import PatchBay.Proofs.Lifecycle

/-!
# Endpoints under watch

A watcher sees every call that a driver gets, with its answer, and keeps what it likes of it. What
an endpoint does to a watched driver comes down to a few kinds of *moves*, whatever the driver
answers: each operation is some moves in a row. So what every move keeps is kept by every run of an
endpoint, over any driver.
-/

namespace PatchBay

open CallLog Relation

/-- A call as a watcher sees it: with its answer, and with the handler that is handed over. -/
structure Sight (η : Type) where
  call : Call
  answer : Answer
  handler : Option η := none

namespace Driver

variable {σ η γ : Type}

/-- The driver under the eyes of a watcher. It answers as it does without one. -/
def watched (d : Driver σ η) (watch : γ → Sight η → γ) : Driver (σ × γ) η where
  backend := d.backend
  nameLimit := d.nameLimit
  openClient s name :=
    let r := d.openClient s.1 name
    (r.1, r.2, watch s.2 ⟨.openClient name, .of .client r.1, none⟩)
  closeClient s client :=
    (d.closeClient s.1 client, watch s.2 ⟨.closeClient client, .done, none⟩)
  setHandler s client handler :=
    let r := d.setHandler s.1 client handler
    (r.1, r.2, watch s.2 ⟨.setHandler client, .of (fun _ => .done) r.1, some handler⟩)
  renameClient s client name :=
    let r := d.renameClient s.1 client name
    (r.1, r.2, watch s.2 ⟨.renameClient client name, .of (fun _ => .done) r.1, none⟩)
  registerPort s client name direction kind :=
    let r := d.registerPort s.1 client name direction kind
    (r.1, r.2, watch s.2 ⟨.registerPort client name direction kind, .of .port r.1, none⟩)
  unregisterPort s client port :=
    (d.unregisterPort s.1 client port, watch s.2 ⟨.unregisterPort client port, .done, none⟩)
  renamePort s client port name :=
    let r := d.renamePort s.1 client port name
    (r.1, r.2, watch s.2 ⟨.renamePort client port name, .of (fun _ => .done) r.1, none⟩)
  enumerate s direction :=
    let r := d.enumerate s.1 direction
    (r.1, r.2, watch s.2 ⟨.enumerate direction, .done, none⟩)
  connect s client port peer :=
    let r := d.connect s.1 client port peer
    (r.1, r.2.1, r.2.2, watch s.2 ⟨.connect client port peer, .of (fun _ => .done) r.1, none⟩)
  disconnect s client port :=
    (d.disconnect s.1 client port, watch s.2 ⟨.disconnect client port, .done, none⟩)
  transmit s client port bytes encoder :=
    let r := d.transmit s.1 client port bytes encoder
    (r.1, r.2.1, r.2.2, watch s.2 ⟨.transmit client port bytes, .of .used r.1, none⟩)
  drain s client :=
    let r := d.drain s.1 client
    (r.1, r.2, watch s.2 ⟨.drain client, .of (fun _ => .done) r.1, none⟩)

end Driver

namespace Endpoint

variable {σ η γ : Type}

/-- A port of this name would be within the limit, together with the name of the client. -/
def Fits (limit : Option Nat) (e : Endpoint η) (name : String) : Prop :=
  ∀ max ∈ limit, e.clientName.utf8ByteSize + 1 + name.utf8ByteSize ≤ max

theorem checkName_ok {d : Driver σ η} {e : Endpoint η} {name : String}
    (h : e.checkName d name = .ok ()) : e.Fits d.nameLimit name := by
  unfold checkName at h
  intro max hmax
  rw [Option.mem_def.mp hmax] at h
  dsimp only at h
  split at h
  · cases h
  · omega

theorem checkName_of_fits {d : Driver σ η} {e : Endpoint η} {name : String}
    (h : e.Fits d.nameLimit name) : e.checkName d name = .ok () := by
  unfold checkName
  cases hlimit : d.nameLimit with
  | none => rfl
  | some limit =>
    have hle := h limit hlimit
    exact if_neg (Nat.not_lt.mpr hle)

/-! ## Moves -/

/-- What an endpoint and a watcher can go through in an operation, in one step, when the driver
refuses names beyond `limit`. The answers of the driver are arbitrary. -/
inductive Move (limit : Option Nat) (watch : γ → Sight η → γ) (op : Operation) :
    Endpoint η × γ → Endpoint η × γ → Prop where
  | unopened {e : Endpoint η} {g : γ} (hlink : e.link = .disconnected) (err : DriverError) :
      Move limit watch op (e, g) (e, watch g ⟨.openClient e.clientName, .failed err, none⟩)
  | opened {e : Endpoint η} {g : γ} (hlink : e.link = .disconnected) (hnone : e.handler = none)
      (c : ClientId) :
      Move limit watch op (e, g)
        ({ e with link := .clientOpen c, handler := none },
          watch g ⟨.openClient e.clientName, .client c, none⟩)
  /-- The client is closed again. -/
  | refused {e : Endpoint η} {g : γ} {h : η} (hlink : e.link = .disconnected)
      (hsome : e.handler = some h) (c : ClientId) (err : DriverError) :
      Move limit watch op (e, g)
        (e, watch (watch (watch g ⟨.openClient e.clientName, .client c, none⟩)
          ⟨.setHandler c, .failed err, some h⟩) ⟨.closeClient c, .done, none⟩)
  | equipped {e : Endpoint η} {g : γ} {h : η} (hlink : e.link = .disconnected)
      (hsome : e.handler = some h) (c : ClientId) :
      Move limit watch op (e, g)
        ({ e with link := .clientOpen c, handler := none },
          watch (watch g ⟨.openClient e.clientName, .client c, none⟩)
            ⟨.setHandler c, .done, some h⟩)
  | unregistered {e : Endpoint η} {g : γ} {c : ClientId} (hlink : e.link = .clientOpen c)
      (name : String) (kind : PortKind) (err : DriverError) :
      Move limit watch op (e, g)
        (e, watch g ⟨.registerPort c name e.direction kind, .failed err, none⟩)
  | registered {e : Endpoint η} {g : γ} {c : ClientId} (hlink : e.link = .clientOpen c)
      {name : String} (hname : e.Fits limit name) (kind : PortKind) (p : PortId) :
      Move limit watch op (e, g)
        ({ e with link := .portOpen c p none },
          watch g ⟨.registerPort c name e.direction kind, .port p, none⟩)
  | listed {e : Endpoint η} {g : γ} :
      Move limit watch op (e, g) (e, watch g ⟨.enumerate e.direction, .done, none⟩)
  | unconnected {e : Endpoint η} {g : γ} {c : ClientId} {p : PortId}
      (hlink : e.link = .portOpen c p none) (peer : Address) (err : DriverError) :
      Move limit watch op (e, g) (e, watch g ⟨.connect c p peer, .failed err, none⟩)
  | connected {e : Endpoint η} {g : γ} {c : ClientId} {p : PortId}
      (hlink : e.link = .portOpen c p none) (peer : Address) :
      Move limit watch op (e, g)
        ({ e with link := .portOpen c p (some peer) },
          watch g ⟨.connect c p peer, .done, none⟩)
  | closed {e : Endpoint η} {g : γ} {c : ClientId} {p : PortId} {peer : Option Address}
      (hlink : e.link = .portOpen c p peer) :
      Move limit watch op (e, g)
        ({ e with link := .clientOpen c },
          watch (if peer.isSome then watch g ⟨.disconnect c p, .done, none⟩ else g)
            ⟨.unregisterPort c p, .done, none⟩)
  | released {e : Endpoint η} {g : γ} {c : ClientId} (hop : op = .shutdown)
      (hlink : e.link = .clientOpen c) :
      Move limit watch op (e, g)
        ({ e with link := .disconnected }, watch g ⟨.closeClient c, .done, none⟩)
  | keptPortName {e : Endpoint η} {g : γ} {c : ClientId} {p : PortId} {peer : Option Address}
      (hlink : e.link = .portOpen c p peer) (name : String) (err : DriverError) :
      Move limit watch op (e, g) (e, watch g ⟨.renamePort c p name, .failed err, none⟩)
  | renamedPort {e : Endpoint η} {g : γ} {c : ClientId} {p : PortId} {peer : Option Address}
      (hlink : e.link = .portOpen c p peer) {name : String} (hname : e.Fits limit name) :
      Move limit watch op (e, g) (e, watch g ⟨.renamePort c p name, .done, none⟩)
  | keptClientName {e : Endpoint η} {g : γ} {c : ClientId} (hclient : e.link.client? = some c)
      (name : String) (err : DriverError) :
      Move limit watch op (e, g) (e, watch g ⟨.renameClient c name, .failed err, none⟩)
  | renamedClient {e : Endpoint η} {g : γ} {c : ClientId} {name : String}
      (hop : op = .setClientName name) (hclient : e.link.client? = some c) :
      Move limit watch op (e, g)
        ({ e with clientName := name }, watch g ⟨.renameClient c name, .done, none⟩)
  /-- There is no client yet. -/
  | named {e : Endpoint η} {g : γ} {name : String} (hop : op = .setClientName name)
      (hclient : e.link.client? = none) :
      Move limit watch op (e, g) ({ e with clientName := name }, g)

/-- An operation that is some moves in a row, and but for the watcher what it is without one. -/
structure Moves (limit : Option Nat) (watch : γ → Sight η → γ) (op : Operation)
    (w : Endpoint η × γ) (after : Endpoint η × σ × γ) (plain : Endpoint η × σ) : Prop where
  unwatched : (after.1, after.2.1) = plain
  moves : ReflTransGen (Move limit watch op) w (after.1, after.2.2)

/-- What every move keeps is kept by an operation. -/
theorem Moves.keeps {limit : Option Nat} {watch : γ → Sight η → γ} {op : Operation}
    {w : Endpoint η × γ} {after : Endpoint η × σ × γ} {plain : Endpoint η × σ}
    {P : Endpoint η × γ → Prop} (h : Moves limit watch op w after plain)
    (hstep : ∀ {w w'}, Move limit watch op w w' → P w → P w') (hw : P w) :
    P (after.1, after.2.2) := by
  have hmoves := h.moves
  generalize (after.1, after.2.2) = w' at hmoves ⊢
  induction hmoves with
  | refl => exact hw
  | tail _ hmove ih => exact hstep hmove ih

end Endpoint

namespace Outcome

open Endpoint (Move Moves Operation)

variable {ω σ η γ α β : Type}

/-- The outcome without what the watcher keeps. -/
def unwatched (o : Outcome ω (σ × γ) η α) : Outcome ω σ η α := { o with driver := o.driver.1 }

/-- An outcome that comes of moves, and but for the watcher is what it is without one. -/
structure Goes (limit : Option Nat) (watch : γ → Sight η → γ) (op : Operation)
    (w : Endpoint η × γ) (o : Outcome (Endpoint η) (σ × γ) η α)
    (plain : Outcome (Endpoint η) σ η α) : Prop where
  unwatched_eq : o.unwatched = plain
  moves : ReflTransGen (Move limit watch op) w (o.subject, o.driver.2)

variable {limit : Option Nat} {watch : γ → Sight η → γ} {op : Operation} {w : Endpoint η × γ}

theorem Goes.final {o : Outcome (Endpoint η) (σ × γ) η α} {plain : Outcome (Endpoint η) σ η α}
    (h : o.Goes limit watch op w plain) : Moves limit watch op w o.final plain.final :=
  ⟨congrArg Outcome.final h.unwatched_eq, h.moves⟩

theorem Goes.andThen {first : Outcome (Endpoint η) (σ × γ) η α}
    {plain : Outcome (Endpoint η) σ η α}
    {f : α → Endpoint η → σ × γ → Outcome (Endpoint η) (σ × γ) η β}
    {g : α → Endpoint η → σ → Outcome (Endpoint η) σ η β} (h : first.Goes limit watch op w plain)
    (hsecond : ∀ a, first.result = .ok a →
      (f a first.subject first.driver).Goes limit watch op (first.subject, first.driver.2)
        (g a first.subject first.driver.1)) :
    (first.andThen f).Goes limit watch op w (plain.andThen g) := by
  obtain ⟨rfl, hmoves⟩ := h
  unfold Outcome.andThen
  cases hresult : first.result with
  | error err =>
    refine ⟨?_, hmoves⟩
    simp [unwatched, hresult]
  | ok a =>
    obtain ⟨heq, hmoves'⟩ := hsecond a hresult
    refine ⟨?_, hmoves.trans hmoves'⟩
    simp only [unwatched, hresult] at heq ⊢
    rw [← heq]

end Outcome

namespace Endpoint

variable {σ η γ : Type} {d : Driver σ η} {watch : γ → Sight η → γ} {op : Operation}
  {e : Endpoint η} {name : String} {kind : PortKind} {c : ClientId} {index : Nat}

/-! ## Operations -/

theorem ensureClient_goes (s : σ × γ) :
    (e.ensureClient (d.watched watch) s).Goes d.nameLimit watch op (e, s.2)
      (e.ensureClient d s.1) := by
  unfold ensureClient
  cases hlink : e.link with
  | clientOpen client => exact ⟨rfl, .refl⟩
  | portOpen client port peer => exact ⟨rfl, .refl⟩
  | disconnected =>
    simp only [Link.client?, Driver.watched]
    cases hopened : d.openClient s.1 e.clientName with
    | mk result s' =>
      cases result with
      | error err =>
        cases err with
        | _ => exact ⟨rfl, .single (.unopened hlink _)⟩
      | ok client =>
        cases hhandler : e.handler with
        | none => exact ⟨rfl, .single (.opened hlink hhandler client)⟩
        | some handler =>
          cases hset : d.setHandler s' client handler with
          | mk accepted s'' =>
            simp only [hset]
            cases accepted with
            | error err => exact ⟨rfl, .single (.refused hlink hhandler client err)⟩
            | ok u => exact ⟨rfl, .single (.equipped hlink hhandler client)⟩

/-- A client that was opened is there, and the names are what they were. -/
theorem ensureClient_ok (d : Driver σ η) (e : Endpoint η) (s : σ) :
    (e.ensureClient d s).subject.clientName = e.clientName ∧
      ∀ c, (e.ensureClient d s).result = .ok c →
        (e.ensureClient d s).subject.link.client? = some c := by
  unfold ensureClient
  cases hclient : e.link.client? with
  | some client =>
    refine ⟨rfl, fun c hc => ?_⟩
    cases hc
    exact hclient
  | none =>
    dsimp only
    split
    · exact ⟨rfl, nofun⟩
    · exact ⟨rfl, nofun⟩
    split
    · refine ⟨rfl, fun c hc => ?_⟩
      cases hc
      rfl
    split
    · exact ⟨rfl, nofun⟩
    · refine ⟨rfl, fun c hc => ?_⟩
      cases hc
      rfl

theorem ensurePort_goes (s : σ × γ) (hc : e.link.client? = some c)
    (hname : e.Fits d.nameLimit name) :
    (e.ensurePort (d.watched watch) s c name kind).Goes d.nameLimit watch op (e, s.2)
      (e.ensurePort d s.1 c name kind) := by
  unfold ensurePort
  cases hlink : e.link with
  | disconnected =>
    rw [hlink] at hc
    cases hc
  | portOpen client port peer => exact ⟨rfl, .refl⟩
  | clientOpen client =>
    rw [hlink] at hc
    cases hc
    simp only [Link.port?, Driver.watched]
    cases hregister : d.registerPort s.1 c name e.direction kind with
    | mk result s' =>
      cases result with
      | error err => exact ⟨rfl, .single (.unregistered hlink name kind err)⟩
      | ok port => exact ⟨rfl, .single (.registered hlink hname kind port)⟩

theorem register_goes (s : σ × γ) :
    (e.register (d.watched watch) s name kind).Goes d.nameLimit watch op (e, s.2)
      (e.register d s.1 name kind) := by
  unfold register
  have hcheck : e.checkName (d.watched watch) name = e.checkName d name := rfl
  rw [hcheck]
  split
  · exact ⟨rfl, .refl⟩
  · rename_i hok
    obtain ⟨hnames, hclient⟩ := ensureClient_ok (d.watched watch) e s
    refine (ensureClient_goes s).andThen fun c hc => ensurePort_goes _ (hclient c hc) ?_
    unfold Fits
    rw [hnames]
    exact checkName_ok hok

theorem connectPort_goes (s : σ × γ) :
    (e.connectPort (d.watched watch) s index).Goes d.nameLimit watch op (e, s.2)
      (e.connectPort d s.1 index) := by
  unfold connectPort
  cases hlink : e.link with
  | disconnected => exact ⟨rfl, .refl⟩
  | clientOpen client => exact ⟨rfl, .refl⟩
  | portOpen client port peer =>
    cases peer with
    | some peer => exact ⟨rfl, .refl⟩
    | none =>
      simp only [Driver.watched]
      cases hpeer : (d.enumerate s.1 e.direction).1[index]? with
      | none => exact ⟨rfl, .single .listed⟩
      | some peer =>
        dsimp only
        cases hconnect : d.connect (d.enumerate s.1 e.direction).2 client port peer.address with
        | mk result after =>
          have hlist : ReflTransGen (Move d.nameLimit watch op) (e, s.2)
              (e, watch s.2 ⟨.enumerate e.direction, .done, none⟩) := .single .listed
          cases result with
          | error err => exact ⟨rfl, hlist.tail (.unconnected hlink peer.address err)⟩
          | ok u => exact ⟨rfl, hlist.tail (.connected hlink peer.address)⟩

theorem closePort_moves (s : σ × γ) :
    Moves d.nameLimit watch op (e, s.2) (e.closePort (d.watched watch) s)
      (e.closePort d s.1) := by
  unfold closePort
  cases hlink : e.link with
  | disconnected => exact ⟨rfl, .refl⟩
  | clientOpen client => exact ⟨rfl, .refl⟩
  | portOpen client port peer =>
    cases peer with
    | none => exact ⟨rfl, .single (.closed hlink)⟩
    | some peer => exact ⟨rfl, .single (.closed hlink)⟩

theorem shutdown_moves (s : σ × γ) :
    Moves d.nameLimit watch .shutdown (e, s.2) (e.shutdown (d.watched watch) s)
      (e.shutdown d s.1) := by
  have hclose : Moves d.nameLimit watch .shutdown (e, s.2) (e.closePort (d.watched watch) s)
      (e.closePort d s.1) := closePort_moves s
  obtain ⟨hclosed, hmoves⟩ := hclose
  have hlink := closePort_link (d.watched watch) e s
  unfold shutdown
  rw [← hclosed]
  generalize e.closePort (d.watched watch) s = closed at hmoves hlink
  obtain ⟨e', s'⟩ := closed
  dsimp only at hmoves hlink ⊢
  obtain hlink | ⟨c, hlink⟩ := hlink
  · rw [hlink]
    exact ⟨rfl, hmoves⟩
  · rw [hlink]
    exact ⟨rfl, hmoves.tail (.released rfl hlink)⟩

theorem setPortName_goes (s : σ × γ) :
    (e.setPortName (d.watched watch) s name).Goes d.nameLimit watch op (e, s.2)
      (e.setPortName d s.1 name) := by
  unfold setPortName
  have hcheck : e.checkName (d.watched watch) name = e.checkName d name := rfl
  rw [hcheck]
  cases hlink : e.link with
  | disconnected => exact ⟨rfl, .refl⟩
  | clientOpen client => exact ⟨rfl, .refl⟩
  | portOpen client port peer =>
    dsimp only
    split
    · exact ⟨rfl, .refl⟩
    · rename_i hok
      simp only [Driver.watched]
      cases hrename : d.renamePort s.1 client port name with
      | mk result after =>
        cases result with
        | error err => exact ⟨rfl, .single (.keptPortName hlink name err)⟩
        | ok u => exact ⟨rfl, .single (.renamedPort hlink (checkName_ok hok))⟩

theorem setClientName_goes (s : σ × γ) :
    (e.setClientName (d.watched watch) s name).Goes d.nameLimit watch (.setClientName name)
      (e, s.2) (e.setClientName d s.1 name) := by
  unfold setClientName
  cases hclient : e.link.client? with
  | none => exact ⟨rfl, .single (.named rfl hclient)⟩
  | some client =>
    simp only [Driver.watched]
    cases hrename : d.renameClient s.1 client name with
    | mk result after =>
      cases result with
      | error err => exact ⟨rfl, .single (.keptClientName hclient name err)⟩
      | ok u => exact ⟨rfl, .single (.renamedClient rfl hclient)⟩

/-- Every operation is some moves in a row. -/
theorem perform_moves (d : Driver σ η) (watch : γ → Sight η → γ) (e : Endpoint η) (s : σ × γ)
    (op : Operation) :
    Moves d.nameLimit watch op (e, s.2) (e.perform (d.watched watch) s op)
      (e.perform d s.1 op) := by
  cases op with
  | ensureClient => exact (ensureClient_goes s).final
  | register name kind => exact (register_goes s).final
  | connectPort index => exact (connectPort_goes s).final
  | openPort index name =>
    exact ((register_goes s).andThen fun _ _ => connectPort_goes _).final
  | openVirtualPort name => exact ((register_goes s).andThen fun _ _ => ⟨rfl, .refl⟩).final
  | closePort => exact closePort_moves s
  | setPortName name => exact (setPortName_goes s).final
  | setClientName name => exact (setClientName_goes s).final
  | shutdown => exact shutdown_moves s

/-! ## Runs -/

theorem performAll_concat (d : Driver σ η) (e : Endpoint η) (s : σ) (ops : List Operation)
    (op : Operation) :
    e.performAll d s (ops ++ [op]) =
      (e.performAll d s ops).1.perform d (e.performAll d s ops).2 op := by
  rw [performAll, List.foldl_append]
  rfl

/-- Watching changes nothing else. -/
theorem performAll_unwatched (d : Driver σ η) (watch : γ → Sight η → γ) (e : Endpoint η)
    (s : σ × γ) (ops : List Operation) :
    ((e.performAll (d.watched watch) s ops).1, (e.performAll (d.watched watch) s ops).2.1) =
      e.performAll d s.1 ops := by
  induction ops using List.reverseRecOn with
  | nil => rfl
  | append_singleton ops op ih =>
    rw [performAll_concat, performAll_concat, ← ih]
    exact (perform_moves d watch _ _ op).unwatched

end Endpoint

end PatchBay
