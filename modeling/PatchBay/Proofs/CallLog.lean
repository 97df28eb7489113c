import PatchBay.Driver.Scripted

/-!
# Calls in order

A log holds the calls that a driver got, with its answers. Read from the front, it says at each
point what is held of the driver: a client, a port of it, a connection of the port. A log is *in
order* if every call names what is held when it is made and takes or gives back no more than that.

A log in order after which nothing is held is a sequence of sessions. A session opens a client,
registers ports one after the other, each connected at most once and disconnected if it was, and
closes the client; each of them is done once.
-/

namespace PatchBay

namespace CallLog

/-- What a call came to. -/
inductive Answer where
  /-- It succeeded, or it is a call that cannot fail. -/
  | done
  | client (client : ClientId)
  | port (port : PortId)
  /-- It succeeded and used up some bytes. -/
  | used (count : Nat)
  | failed (error : DriverError)
deriving Repr, DecidableEq

def Answer.of {α : Type} (f : α → Answer) : Except DriverError α → Answer
  | .ok a => f a
  | .error e => .failed e

/-- A call with its answer. -/
structure Entry where
  call : Call
  answer : Answer
deriving Repr, DecidableEq

end CallLog

namespace Driver

open CallLog

variable {σ η : Type}

/-- The driver, with a log of its calls. It answers as it does without one. -/
def logged (d : Driver σ η) : Driver (σ × List Entry) η where
  backend := d.backend
  nameLimit := d.nameLimit
  openClient s name :=
    let r := d.openClient s.1 name
    (r.1, r.2, s.2 ++ [⟨.openClient name, .of .client r.1⟩])
  closeClient s client := (d.closeClient s.1 client, s.2 ++ [⟨.closeClient client, .done⟩])
  setHandler s client handler :=
    let r := d.setHandler s.1 client handler
    (r.1, r.2, s.2 ++ [⟨.setHandler client, .of (fun _ => .done) r.1⟩])
  renameClient s client name :=
    let r := d.renameClient s.1 client name
    (r.1, r.2, s.2 ++ [⟨.renameClient client name, .of (fun _ => .done) r.1⟩])
  registerPort s client name direction kind :=
    let r := d.registerPort s.1 client name direction kind
    (r.1, r.2, s.2 ++ [⟨.registerPort client name direction kind, .of .port r.1⟩])
  unregisterPort s client port :=
    (d.unregisterPort s.1 client port, s.2 ++ [⟨.unregisterPort client port, .done⟩])
  renamePort s client port name :=
    let r := d.renamePort s.1 client port name
    (r.1, r.2, s.2 ++ [⟨.renamePort client port name, .of (fun _ => .done) r.1⟩])
  enumerate s direction :=
    let r := d.enumerate s.1 direction
    (r.1, r.2, s.2 ++ [⟨.enumerate direction, .done⟩])
  connect s client port peer :=
    let r := d.connect s.1 client port peer
    (r.1, r.2.1, r.2.2, s.2 ++ [⟨.connect client port peer, .of (fun _ => .done) r.1⟩])
  disconnect s client port :=
    (d.disconnect s.1 client port, s.2 ++ [⟨.disconnect client port, .done⟩])
  transmit s client port bytes encoder :=
    let r := d.transmit s.1 client port bytes encoder
    (r.1, r.2.1, r.2.2, s.2 ++ [⟨.transmit client port bytes, .of .used r.1⟩])
  drain s client :=
    let r := d.drain s.1 client
    (r.1, r.2, s.2 ++ [⟨.drain client, .of (fun _ => .done) r.1⟩])

end Driver

namespace CallLog

/-! ## What is held -/

/-- What is held of a driver. -/
inductive Hold where
  | nothing
  | client (client : ClientId)
  /-- A client whose handler was refused. -/
  | refused (client : ClientId)
  /-- A port that has not been connected. -/
  | port (client : ClientId) (port : PortId)
  | joined (client : ClientId) (port : PortId)
  /-- A port that has been disconnected again. -/
  | parted (client : ClientId) (port : PortId)
deriving Repr, DecidableEq

namespace Hold

/-- What is held after a call. -/
def next : Hold → Entry → Hold
  | _, ⟨.openClient _, .client c⟩ => .client c
  | _, ⟨.closeClient _, _⟩ => .nothing
  | _, ⟨.setHandler c, .failed _⟩ => .refused c
  | _, ⟨.registerPort c _ _ _, .port p⟩ => .port c p
  | _, ⟨.unregisterPort c _, _⟩ => .client c
  | _, ⟨.connect c p _, .done⟩ => .joined c p
  | _, ⟨.disconnect c p, _⟩ => .parted c p
  | h, _ => h

def after (h : Hold) (log : List Entry) : Hold := log.foldl next h

/-- The calls that are in order where this is held. A refused client can only be closed, and a port
that was disconnected can only be removed. Nothing is sent. -/
def Permits (h : Hold) : Call → Prop
  | .openClient _ => h = .nothing
  | .closeClient c => h = .client c ∨ h = .refused c
  | .setHandler c => h = .client c
  | .renameClient c _ => h = .client c ∨ ∃ p, h = .port c p ∨ h = .joined c p
  | .registerPort c _ _ _ => h = .client c
  | .unregisterPort c p => h = .port c p ∨ h = .parted c p
  | .renamePort c p _ => h = .port c p ∨ h = .joined c p
  | .enumerate _ => True
  | .connect c p _ => h = .port c p
  | .disconnect c p => h = .joined c p
  | .transmit .. | .sent _ | .drain _ => False

end Hold

/-- Whether all calls of a log are in order, where `h` is held before them. -/
def InOrder : Hold → List Entry → Prop
  | _, [] => True
  | h, entry :: log => h.Permits entry.call ∧ InOrder (h.next entry) log

/-- A log in order, from the start on, leads to what is held. -/
structure Reaches (log : List Entry) (h : Hold) : Prop where
  inOrder : InOrder .nothing log
  after_eq : Hold.nothing.after log = h

variable {h : Hold} {log : List Entry} {entry : Entry}

theorem reaches_nil : Reaches [] .nothing := ⟨trivial, rfl⟩

theorem InOrder.note (ho : InOrder h log) (hp : (h.after log).Permits entry.call) :
    InOrder h (log ++ [entry]) := by
  induction log generalizing h with
  | nil => exact ⟨hp, trivial⟩
  | cons first log ih => exact ⟨ho.1, ih ho.2 hp⟩

/-- One more call. -/
theorem Reaches.note (hr : Reaches log h) (entry : Entry) (hp : h.Permits entry.call) :
    Reaches (log ++ [entry]) (h.next entry) := by
  obtain ⟨ho, rfl⟩ := hr
  refine ⟨ho.note hp, ?_⟩
  simp [Hold.after]

/-! ## Sessions -/

/-- A call that changes what is held. -/
inductive Mark where
  | opened (client : ClientId)
  | closed (client : ClientId)
  | registered (client : ClientId) (port : PortId)
  | unregistered (client : ClientId) (port : PortId)
  | joined (client : ClientId) (port : PortId)
  | parted (client : ClientId) (port : PortId)
deriving Repr, DecidableEq

def Entry.mark? : Entry → Option Mark
  | ⟨.openClient _, .client client⟩ => some (.opened client)
  | ⟨.closeClient client, _⟩ => some (.closed client)
  | ⟨.registerPort client _ _ _, .port port⟩ => some (.registered client port)
  | ⟨.unregisterPort client port, _⟩ => some (.unregistered client port)
  | ⟨.connect client port _, .done⟩ => some (.joined client port)
  | ⟨.disconnect client port, _⟩ => some (.parted client port)
  | _ => none

/-- A port from its registration to its removal. -/
structure Registration where
  port : PortId
  /-- Whether it was connected meanwhile. -/
  joined : Bool
deriving Repr, DecidableEq

/-- What comes after the registration. -/
def Registration.rest (c : ClientId) (r : Registration) : List Mark :=
  (if r.joined then [.joined c r.port, .parted c r.port] else []) ++ [.unregistered c r.port]

def Registration.marks (c : ClientId) (r : Registration) : List Mark :=
  .registered c r.port :: r.rest c

/-- A client from its opening to its closing. -/
structure Session where
  client : ClientId
  registrations : List Registration
deriving Repr, DecidableEq

/-- What comes after the opening. -/
def Session.rest (s : Session) : List Mark :=
  s.registrations.flatMap (Registration.marks s.client) ++ [.closed s.client]

def Session.marks (s : Session) : List Mark := .opened s.client :: s.rest

namespace Hold

/-- What is still to come where a client is held, if nothing is held at the end. -/
def ClientEnds (c : ClientId) (marks : List Mark) : Prop :=
  ∃ (rs : List Registration) (sessions : List Session),
    marks = (⟨c, rs⟩ : Session).rest ++ sessions.flatMap Session.marks

/-- What is still to come where something is held, if nothing is held at the end. -/
def Ends : Hold → List Mark → Prop
  | .nothing, marks => ∃ sessions : List Session, marks = sessions.flatMap Session.marks
  | .client c, marks => ClientEnds c marks
  | .refused c, marks => ∃ sessions : List Session,
      marks = .closed c :: sessions.flatMap Session.marks
  | .port c p, marks => ∃ joined more, marks = (⟨p, joined⟩ : Registration).rest c ++ more ∧
      ClientEnds c more
  | .joined c p, marks => ∃ more, marks = .parted c p :: .unregistered c p :: more ∧
      ClientEnds c more
  | .parted c p, marks => ∃ more, marks = .unregistered c p :: more ∧ ClientEnds c more

theorem ClientEnds.register {c : ClientId} {p : PortId} {marks : List Mark}
    (h : (port c p).Ends marks) : ClientEnds c (.registered c p :: marks) := by
  obtain ⟨joined, more, rfl, rs, sessions, rfl⟩ := h
  exact ⟨⟨p, joined⟩ :: rs, sessions, by simp [Session.rest, Registration.marks]⟩

theorem ClientEnds.close {marks : List Mark} (c : ClientId) (h : nothing.Ends marks) :
    ClientEnds c (.closed c :: marks) := by
  obtain ⟨sessions, rfl⟩ := h
  exact ⟨[], sessions, rfl⟩

theorem Ends.open {c : ClientId} {marks : List Mark} (h : ClientEnds c marks) :
    nothing.Ends (.opened c :: marks) := by
  obtain ⟨rs, sessions, rfl⟩ := h
  exact ⟨⟨c, rs⟩ :: sessions, by simp [Session.marks]⟩

end Hold

theorem InOrder.ends (ho : InOrder h log) (hend : h.after log = .nothing) :
    h.Ends (log.filterMap Entry.mark?) := by
  induction log generalizing h with
  | nil =>
    rw [show h = .nothing from hend]
    exact ⟨[], rfl⟩
  | cons entry log ih =>
    obtain ⟨hp, ho⟩ := ho
    have hmore := ih ho hend
    obtain ⟨call, answer⟩ := entry
    cases call with
    | openClient name =>
      cases hp
      cases answer with
      | client c => exact Hold.Ends.open hmore
      | _ => exact hmore
    | closeClient c =>
      rcases hp with rfl | rfl
      · exact Hold.ClientEnds.close c hmore
      · obtain ⟨sessions, heq⟩ := hmore
        exact ⟨sessions, congrArg (Mark.closed c :: ·) heq⟩
    | setHandler c =>
      cases hp
      cases answer with
      | failed e =>
        obtain ⟨sessions, heq⟩ := hmore
        simp only [List.filterMap_cons, Entry.mark?]
        rw [heq]
        exact Hold.ClientEnds.close c ⟨sessions, rfl⟩
      | _ => exact hmore
    | renameClient c name => exact hmore
    | registerPort c name direction kind =>
      cases hp
      cases answer with
      | port p => exact Hold.ClientEnds.register hmore
      | _ => exact hmore
    | unregisterPort c p =>
      rcases hp with rfl | rfl
      · exact ⟨false, _, rfl, hmore⟩
      · exact ⟨_, rfl, hmore⟩
    | renamePort c p name => exact hmore
    | enumerate direction => exact hmore
    | connect c p peer =>
      cases hp
      cases answer with
      | done =>
        obtain ⟨more, heq, hclient⟩ := hmore
        simp only [List.filterMap_cons, Entry.mark?]
        rw [heq]
        exact ⟨true, more, rfl, hclient⟩
      | _ => exact hmore
    | disconnect c p =>
      cases hp
      obtain ⟨more, heq, hclient⟩ := hmore
      simp only [List.filterMap_cons, Entry.mark?]
      rw [heq]
      exact ⟨more, rfl, hclient⟩
    | transmit c p bytes => cases hp
    | sent event => cases hp
    | drain c => cases hp

/-- A log in order after which nothing is held consists of sessions. -/
theorem Reaches.sessions (hr : Reaches log .nothing) :
    ∃ sessions : List Session, log.filterMap Entry.mark? = sessions.flatMap Session.marks :=
  hr.inOrder.ends hr.after_eq

end CallLog

end PatchBay
