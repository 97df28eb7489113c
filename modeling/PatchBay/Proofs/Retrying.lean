import Mathlib.Logic.Relation
import PatchBay.Driver.Scripted
import PatchBay.Proofs.Setbacks

/-!
# Trying again

An operation that finds a client or a port does not ask for another one. So it ends in the same
place whether it starts from the beginning or from where failed attempts have left the endpoint,
once all of its calls succeed. What differs are the handles, which are the driver's to choose: the
place is the *shape* of the endpoint, in which they are left out.
-/

namespace PatchBay

open CallLog Relation

/-- The call succeeded, and if it listed ports, it listed these. -/
def Note.goesWell {η : Type} (peers : List Peer) (note : Note η) : Bool :=
  match note.answer, note.call with
  | .failed _, _ => false
  | _, .enumerate _ => note.peers = peers
  | _, _ => true

theorem Outcome.failure?_inj {ω ω' σ τ η : Type} {o : Outcome ω σ η Unit} {o' : Outcome ω' τ η Unit}
    (h : o.failure? = o'.failure?) : o.result = o'.result := by
  unfold failure? at h
  cases hresult : o.result with
  | error err =>
    cases hresult' : o'.result with
    | error err' =>
      rw [hresult, hresult'] at h
      cases h
      rfl
    | ok u =>
      rw [hresult, hresult'] at h
      cases h
  | ok u =>
    cases hresult' : o'.result with
    | error err' =>
      rw [hresult, hresult'] at h
      cases h
    | ok u' => rfl

/-! ## What an endpoint is apart from its handles -/

/-- An endpoint without its handles. -/
structure Shape (η : Type) where
  direction : Direction
  clientName : String
  state : ConnectionState
  peer : Option Address
  handler : Option η

def Endpoint.shape {η : Type} (e : Endpoint η) : Shape η :=
  ⟨e.direction, e.clientName, e.link.state, e.link.peer?, e.handler⟩

namespace Shape

variable {η : Type}

def withClient (x : Shape η) : Shape η :=
  match x.state with
  | .disconnected => { x with state := .clientOpen, handler := none }
  | _ => x

def withPort (x : Shape η) : Shape η :=
  match x.state with
  | .portOpen => x
  | _ => { x with state := .portOpen, peer := none }

def withoutPort (x : Shape η) : Shape η :=
  match x.state with
  | .portOpen => { x with state := .clientOpen, peer := none }
  | _ => x

def connected (peers : List Peer) (index : Nat) (x : Shape η) : Option PortError × Shape η :=
  match x.state, x.peer with
  | .portOpen, some _ => (none, x)
  | .portOpen, none =>
    match peers[index]? with
    | none => (some (.invalidPortIndex index peers.length), x)
    | some peer => (none, { x with peer := some peer.address })
  | _, _ => (some .notOpen, x)

/-- With a client and a port, if the port may have this name. -/
def registered (limit : Option Nat) (name : String) (x : Shape η) : Option PortError × Shape η :=
  match nameError limit x.clientName name with
  | some err => (some err, x)
  | none => (none, x.withClient.withPort)

/-- Goes on where nothing failed. -/
def unlessFailed (first : Option PortError × Shape η) (f : Shape η → Option PortError × Shape η) :
    Option PortError × Shape η :=
  match first with
  | (some err, x) => (some err, x)
  | (none, x) => f x

/-- What comes of an operation all of whose calls succeed, where these ports are listed. -/
def smoothly (limit : Option Nat) (peers : List Peer) (x : Shape η) :
    Endpoint.Operation → Option PortError × Shape η
  | .ensureClient => (none, x.withClient)
  | .register name _ | .openVirtualPort name => x.registered limit name
  | .connectPort index => x.connected peers index
  | .openPort index name => unlessFailed (x.registered limit name) (connected peers index)
  | .closePort => (none, x.withoutPort)
  | .setPortName name =>
    match x.state with
    | .portOpen => (nameError limit x.clientName name, x)
    | _ => (some .notOpen, x)
  | .setClientName name => (none, { x with clientName := name })
  | .shutdown => (none, { x with state := .disconnected, peer := none })

@[simp] theorem withClient_clientName (x : Shape η) : x.withClient.clientName = x.clientName := by
  unfold withClient
  split <;> rfl

@[simp] theorem withPort_clientName (x : Shape η) : x.withPort.clientName = x.clientName := by
  unfold withPort
  split <;> rfl

/-- Where there is a client, none is opened. -/
@[simp] theorem withClient_withClient (x : Shape η) : x.withClient.withClient = x.withClient := by
  unfold withClient
  cases hstate : x.state <;> simp [hstate]

@[simp] theorem withClient_withPort (x : Shape η) : x.withPort.withClient = x.withPort := by
  unfold withPort withClient
  cases hstate : x.state <;> simp [hstate]

/-- Where there is a port, none is registered. -/
@[simp] theorem withPort_withPort (x : Shape η) : x.withPort.withPort = x.withPort := by
  unfold withPort
  cases hstate : x.state <;> simp [hstate]

variable {x : Shape η} {limit : Option Nat} {name : String}

theorem registered_withClient (hname : nameError limit x.clientName name = none) :
    x.withClient.registered limit name = x.registered limit name := by
  simp [registered, hname]

theorem registered_withPort (hname : nameError limit x.clientName name = none) :
    x.withClient.withPort.registered limit name = x.registered limit name := by
  simp [registered, hname]

theorem smoothly_openPort (limit : Option Nat) (peers : List Peer) (x : Shape η) (index : Nat)
    (name : String) : x.smoothly limit peers (.openPort index name) =
      unlessFailed (x.registered limit name) (connected peers index) :=
  rfl

end Shape

namespace Endpoint

variable {σ η : Type} {d : Driver σ η} {e e' e'' : Endpoint η} {limit : Option Nat}
  {op : Operation} {made : List (Note η)} {failure : Option PortError} {err : PortError}
  {name : String} {kind : PortKind} {index : Nat} {peers : List Peer}

/-! ## Operations all of whose calls succeed -/

theorem OpensClient.shape_eq (h : e.OpensClient made none e') :
    e'.shape = e.shape.withClient := by
  rcases h.succeeded with ⟨rfl, hlink⟩ | ⟨hlink, c, -, rfl⟩
  · unfold shape Shape.withClient
    cases hopen : e'.link with
    | disconnected => exact absurd hopen hlink
    | clientOpen | portOpen => rfl
  · unfold shape Shape.withClient
    rw [hlink]
    rfl

theorem AddsPort.shape_eq (h : e.AddsPort name kind made none e') :
    e'.shape = e.shape.withPort := by
  unfold shape Shape.withPort
  cases h with
  | there hport =>
    cases hlink : e.link with
    | portOpen client port peer => rfl
    | disconnected | clientOpen =>
      rw [hlink] at hport
      cases hport
  | registered hlink p =>
    rw [hlink]
    rfl

theorem Registering.shape_eq (h : e.Registering limit name kind made none e') :
    nameError limit e.clientName name = none ∧ e'.shape = e.shape.withClient.withPort := by
  cases h with
  | going hname hopens hadds => exact ⟨hname, by rw [hadds.shape_eq, hopens.shape_eq]⟩

theorem OpensClient.of_goesWell (h : e.OpensClient made failure e')
    (hwell : ∀ note ∈ made, note.goesWell peers = true) : failure = none := by
  -- the call that failed would be among those that went well
  cases h with
  | there | opened | equipped => rfl
  | unopened hlink err => cases hwell _ (List.mem_singleton_self _)
  | refused hlink hsome c err => cases hwell _ (List.mem_cons_of_mem _ (List.mem_cons_self ..))

theorem AddsPort.of_goesWell (h : e.AddsPort name kind made failure e')
    (hwell : ∀ note ∈ made, note.goesWell peers = true) : failure = none := by
  cases h with
  | there | registered => rfl
  | unregistered hlink err => cases hwell _ (List.mem_singleton_self _)

theorem Registering.smooth (h : e.Registering limit name kind made failure e')
    (hwell : ∀ note ∈ made, note.goesWell peers = true) :
    (failure, e'.shape) = e.shape.registered limit name := by
  unfold Shape.registered
  cases h with
  | misnamed hname =>
    have hname' : nameError limit e.shape.clientName name = _ := hname
    rw [hname']
  | clientless hname hopens => cases hopens.of_goesWell hwell
  | going hname hopens hadds =>
    have hname' : nameError limit e.shape.clientName name = none := hname
    have hdone := hadds.of_goesWell fun note hnote => hwell note (List.mem_append_right _ hnote)
    subst hdone
    rw [hname', hadds.shape_eq, hopens.shape_eq]

theorem Connecting.smooth (h : e.Connecting index made failure e')
    (hwell : ∀ note ∈ made, note.goesWell peers = true) :
    (failure, e'.shape) = e.shape.connected peers index := by
  unfold Shape.connected shape
  cases h with
  | noPort hport =>
    cases hlink : e.link with
    | disconnected | clientOpen => rfl
    | portOpen =>
      rw [hlink] at hport
      cases hport
  | there hpeer =>
    cases hlink : e.link with
    | portOpen client port peer =>
      rw [hlink] at hpeer
      obtain ⟨address, rfl⟩ := Option.isSome_iff_exists.mp hpeer
      rfl
    | disconnected | clientOpen =>
      rw [hlink] at hpeer
      cases hpeer
  | @unlisted c p listed hlink hpeer =>
    have hsame : listed = peers := of_decide_eq_true (hwell _ (List.mem_cons_self ..))
    subst hsame
    simp only [hlink, Link.state, Link.peer?, hpeer]
  | unconnected hlink hpeer err => cases hwell _ (List.mem_cons_of_mem _ (List.mem_cons_self ..))
  | @connected c p listed peer hlink hpeer =>
    have hsame : listed = peers := of_decide_eq_true (hwell _ (List.mem_cons_self ..))
    subst hsame
    simp only [hlink, Link.state, Link.peer?, hpeer]

/-- An operation all of whose calls succeed comes to what can be told without the handles. -/
theorem Proceeds.smooth (h : e.Proceeds limit op made failure e')
    (hwell : ∀ note ∈ made, note.goesWell peers = true) :
    (failure, e'.shape) = e.shape.smoothly limit peers op := by
  cases h with
  | ensureClient h =>
    cases h.of_goesWell hwell
    exact congrArg (Prod.mk none) h.shape_eq
  | register h => exact h.smooth hwell
  | connectPort h => exact h.smooth hwell
  | portless index h =>
    rw [Shape.smoothly_openPort, ← h.smooth hwell]
    rfl
  | openPort h h' =>
    have hregister := h.smooth fun note hnote => hwell note (List.mem_append_left _ hnote)
    have hconnect := h'.smooth fun note hnote => hwell note (List.mem_append_right _ hnote)
    rw [Shape.smoothly_openPort, ← hregister]
    exact hconnect
  | openVirtualPort h => exact h.smooth hwell
  | nothingOpen hport =>
    unfold Shape.smoothly Shape.withoutPort shape
    cases hlink : e.link with
    | disconnected | clientOpen => rfl
    | portOpen =>
      rw [hlink] at hport
      cases hport
  | closePort hlink =>
    unfold Shape.smoothly Shape.withoutPort shape
    rw [hlink]
    rfl
  | noPort hport name =>
    unfold Shape.smoothly shape
    cases hlink : e.link with
    | disconnected | clientOpen => rfl
    | portOpen =>
      rw [hlink] at hport
      cases hport
  | misnamed hport hname =>
    unfold Shape.smoothly shape
    cases hlink : e.link with
    | portOpen => exact congrArg (Prod.mk · _) hname.symm
    | disconnected | clientOpen =>
      rw [hlink] at hport
      cases hport
  | renamedPort hlink hname =>
    unfold Shape.smoothly shape
    rw [hlink]
    exact congrArg (Prod.mk · _) hname.symm
  | keptPortName hlink name err => cases hwell _ (List.mem_singleton_self _)
  | keptClientName hclient name err => cases hwell _ (List.mem_singleton_self _)
  | named | renamedClient => rfl
  | disconnected hlink | closeClient hlink | shutdown hlink =>
    unfold Shape.smoothly shape
    rw [hlink]
    rfl

/-- A client without the port that it was opened for, or nothing new. -/
theorem Registering.failed_shape (h : e.Registering limit name kind made (some err) e') :
    e'.shape = e.shape ∨
      nameError limit e.clientName name = none ∧ e'.shape = e.shape.withClient := by
  cases h with
  | misnamed hname => exact .inl rfl
  | clientless hname hopens => exact .inl (congrArg shape hopens.failed)
  | going hname hopens hadds =>
    cases hadds
    exact .inr ⟨hname, hopens.shape_eq⟩

theorem Registering.again (h : e.Registering limit name kind made (some err) e') :
    e'.shape.registered limit name = e.shape.registered limit name := by
  rcases h.failed_shape with hsame | ⟨hname, hclient⟩
  · rw [hsame]
  · rw [hclient]
    exact Shape.registered_withClient hname

/-- From where a failed operation has left the endpoint, it comes to what it comes to from the
beginning. -/
theorem Proceeds.again (h : e.Proceeds limit op made (some err) e') (peers : List Peer) :
    e'.shape.smoothly limit peers op = e.shape.smoothly limit peers op := by
  cases h with
  | ensureClient h => rw [h.failed]
  | register h => exact h.again
  | connectPort h => rw [h.failed]
  | portless index h => rw [Shape.smoothly_openPort, Shape.smoothly_openPort, h.again]
  | openPort h h' =>
    -- the port is there now, and to ask for a client and a port again does nothing
    obtain ⟨hname, hshape⟩ := h.shape_eq
    have hsame : e.shape.withClient.withPort.registered limit _ = e.shape.registered limit _ :=
      Shape.registered_withPort hname
    rw [Shape.smoothly_openPort, Shape.smoothly_openPort, h'.failed, hshape, hsame]
  | openVirtualPort h => exact h.again
  | noPort | misnamed | keptPortName | keptClientName => rfl

/-- Whatever the driver, the result and the shape are those that can be told without it. -/
theorem attempt_smooth (d : Driver σ η) (e : Endpoint η) (s : σ) (op : Operation)
    (hwell : ∀ note ∈ (e.attempt d.noted (s, []) op).driver.2, note.goesWell peers = true) :
    ((e.attempt d.noted (s, []) op).failure?, (e.attempt d.noted (s, []) op).subject.shape) =
      e.shape.smoothly d.nameLimit peers op := by
  obtain ⟨made, hmade, hproceeds⟩ := attempt_notes d e (s, []) op
  rw [List.nil_append] at hmade
  exact hproceeds.smooth (hmade ▸ hwell)

/-! ## Failed attempts -/

/-- A failed attempt, over the driver in whatever state, and what it leaves. -/
def Fails (d : Driver σ η) (op : Operation) (e e' : Endpoint η) : Prop :=
  ∃ s err, (e.attempt d s op).result = .error err ∧ (e.attempt d s op).subject = e'

theorem Fails.again (h : Fails d op e e') (peers : List Peer) :
    e'.shape.smoothly d.nameLimit peers op = e.shape.smoothly d.nameLimit peers op := by
  obtain ⟨s, err, herr, rfl⟩ := h
  have hsame := attempt_answers d.answers_noted e (s, []) op
  rw [← hsame] at herr ⊢
  obtain ⟨made, -, hproceeds⟩ := attempt_proceeds herr
  exact hproceeds.again peers

/-- Any number of failed attempts. -/
theorem again_of_fails (h : ReflTransGen (Fails d op) e e') (peers : List Peer) :
    e'.shape.smoothly d.nameLimit peers op = e.shape.smoothly d.nameLimit peers op := by
  induction h with
  | refl => rfl
  | tail _ hfails ih => exact (hfails.again peers).trans ih

/-- **A failed operation leaves the last consistent state.** A new endpoint, with a handler or
without one, carries out some operations over a driver that answers each call as it likes, and then
one that fails. Noting the calls changes nothing else. The endpoint is as it was before the failed
operation, or has the client that was opened, with its handler installed, for a port that could not
be registered, or the port that was registered and could not be connected; and what it has is what
is held of the driver. Where the name was refused, no call was made. Where no client was opened, or
its handler was refused, there is none, neither here nor at the driver, and the handler is still
there. After any number of failed attempts, if all the calls of one more succeed, it comes to the
same result and the same shape as over a driver, this or another with the limit, whose calls
succeed at the first attempt. The ports that the two list are the same. -/
theorem attempt_error (d : Driver σ η) (direction : Direction) (clientName : String)
    (handler : Option η) (s : σ) (history : List Operation) (op : Operation) :
    let fresh : Endpoint η := { direction, clientName, handler }
    let now := fresh.performAll d.noted (s, []) history
    let next := now.1.attempt d.noted now.2 op
    ((now.1, now.2.1) = fresh.performAll d s history ∧
      next.mapDriver Prod.fst = now.1.attempt d now.2.1 op) ∧
    ∀ err, next.result = .error err →
      (∃ made, next.driver.2 = now.2.2 ++ made ∧ now.1.Leaves op made next.subject ∧
        Reaches (next.driver.2.map Note.entry) next.subject.link.hold ∧
        (err.refusesName = true → made = [] ∧ next.subject = now.1) ∧
        ((∃ note ∈ made, note.deniesClient = true) →
          next.subject = now.1 ∧ next.subject.link = .disconnected ∧
            Reaches (next.driver.2.map Note.entry) .nothing)) ∧
      ∀ later, ReflTransGen (Fails d op) next.subject later →
        ∀ (τ : Type) (d' : Driver τ η), d'.nameLimit = d.nameLimit → ∀ peers s₁ s₂,
          let retry := later.attempt d.noted (s₁, []) op
          let clean := now.1.attempt d'.noted (s₂, []) op
          (∀ note ∈ retry.driver.2, note.goesWell peers = true) →
            (∀ note ∈ clean.driver.2, note.goesWell peers = true) →
              retry.result = clean.result ∧ retry.subject.shape = clean.subject.shape := by
  intro fresh now next
  have hfresh : Reaches (([] : List (Note η)).map Note.entry) fresh.link.hold := reaches_nil
  have hnow : Reaches (now.2.2.map Note.entry) now.1.link.hold :=
    performAll_reaches (s := (s, [])) hfresh d history
  have hnext : Reaches (next.driver.2.map Note.entry) next.subject.link.hold :=
    attempt_reaches hnow d op
  refine ⟨⟨(performAll_answers d.answers_noted fresh (s, []) history).symm,
    attempt_answers d.answers_noted now.1 now.2 op⟩, fun err herr => ?_⟩
  obtain ⟨made, hmade, hproceeds⟩ := attempt_proceeds herr
  constructor
  · refine ⟨made, hmade, hproceeds.leaves, hnext, hproceeds.refused, ?_⟩
    rintro ⟨note, hnote, hdenies⟩
    obtain ⟨hsame, hlink⟩ := hproceeds.denied hnote hdenies
    have hclosed : next.subject.link = .disconnected := (congrArg link hsame).trans hlink
    rw [hclosed] at hnext
    exact ⟨hsame, hclosed, hnext⟩
  · intro later hfails τ d' hlimit peers s₁ s₂ retry clean hretry hclean
    -- both come to what is told without the driver, and the failed attempts do not change that
    have hall : (retry.failure?, retry.subject.shape) = (clean.failure?, clean.subject.shape) :=
      calc (retry.failure?, retry.subject.shape)
          = later.shape.smoothly d.nameLimit peers op := attempt_smooth d later s₁ op hretry
        _ = next.subject.shape.smoothly d.nameLimit peers op := again_of_fails hfails peers
        _ = now.1.shape.smoothly d.nameLimit peers op := hproceeds.again peers
        _ = (clean.failure?, clean.subject.shape) := by
          rw [← hlimit]
          exact (attempt_smooth d' now.1 s₂ op hclean).symm
    exact ⟨Outcome.failure?_inj (congrArg Prod.fst hall), congrArg Prod.snd hall⟩

/-- The port cannot be registered, and the client that was opened for it is kept. Trying again
uses it, and ends as if the first attempt had succeeded. -/
theorem attempt_error_unregistered :
    let d : Driver (Scripted Unit) Unit := Scripted.driver .loopback none
    let synth : Peer := ⟨"synth:out", ⟨"synth:out"⟩⟩
    let busy : Scripted Unit :=
      { peers := [synth], nextClient := 7,
        script := [(.registerPort, [.fail (.backend "busy")])] }
    let e : Endpoint Unit := { direction := .input, clientName := "keys", handler := some () }
    let op : Operation := .openPort 0 "in"
    let failed := e.attempt d.noted (busy, []) op
    let retry := failed.subject.attempt d.noted (failed.driver.1, []) op
    let clean := e.attempt d.noted ({ peers := [synth] }, []) op
    failed.result = .error (.driver (.backend "busy")) ∧
      (failed.subject.link = .clientOpen ⟨7⟩ ∧ failed.subject.handler = none) ∧
      retry.subject.link = .portOpen ⟨7⟩ ⟨1⟩ (some ⟨"synth:out"⟩) ∧
      clean.subject.link = .portOpen ⟨1⟩ ⟨1⟩ (some ⟨"synth:out"⟩) ∧
      retry.result = clean.result ∧ retry.subject.shape = clean.subject.shape := by
  intro d synth busy e op failed retry clean
  have herr : failed.result = .error (.driver (.backend "busy")) := by decide +kernel
  obtain ⟨-, hretry⟩ := (attempt_error d .input "keys" (some ()) busy [] op).2 _ herr
  refine ⟨herr, ⟨by decide +kernel, by decide +kernel⟩, by decide +kernel, by decide +kernel, ?_⟩
  exact hretry failed.subject .refl (Scripted Unit) d rfl [synth] failed.driver.1
    { peers := [synth] } (by decide +kernel) (by decide +kernel)

end Endpoint

end PatchBay
