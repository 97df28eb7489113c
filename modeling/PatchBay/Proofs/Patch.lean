import PatchBay.Input
import PatchBay.Output
import PatchBay.Proofs.Conservation
import PatchBay.Proofs.Transport

/-!
# An input on the bus while others send

A *patch* is a bus together with one input that listens to it and the client code that takes
messages from the input's queue. The dispatcher and the client run whenever they get to: what they
do between two calls of the driver is laid down in a schedule, and everything is proved for every
schedule.

The invariant is that what the input has heard, followed by what is on its way to it, is what was
sent.
-/

namespace PatchBay

/-! ## Batches -/

namespace Assembler

variable {a b : Assembler} {g : Gate} {port : PortId}

theorem process_opening (a : Assembler) (e : RawEvent) : (a.process e).opening = a.opening := by
  by_cases h : e.fragment = []
  · rw [process_nil h]
  · cases hd : (a.judge e.fragment).1.deliver
    · rw [process_held h hd]
    · rw [process_complete h hd]
      rfl

theorem processAll_opening (a : Assembler) (es : List RawEvent) :
    (a.processAll es).opening = a.opening := by
  induction es generalizing a with
  | nil => rfl
  | cons e es ih => rw [processAll_cons, ih, process_opening]

/-- An assembler that has nothing to forget takes a batch at the gate as it would without one. -/
theorem Agrees.accept (h : a.Agrees b) (es : List RawEvent) (hg : g.active = some port)
    (hn : a.opening = g.opening ∨ b.continuing = false ∧ b.draft = {}) :
    (a.accept g port es).Agrees (b.processAll es) ∧ (a.accept g port es).opening = g.opening ∧
      (a.accept g port es).sink = a.sink.deliverAll (b.handed es) := by
  have hnotice : (a.notice g.opening).Agrees b ∧ (a.notice g.opening).opening = g.opening ∧
      (a.notice g.opening).sink = a.sink := by
    by_cases ho : g.opening = a.opening
    · rw [notice, if_pos ho]
      exact ⟨h, ho.symm, rfl⟩
    · obtain ⟨hc, hd⟩ := hn.resolve_left (Ne.symm ho)
      rw [notice, if_neg ho]
      exact ⟨⟨h.filter, hd.symm, hc.symm, h.stamper⟩, rfl, rfl⟩
  obtain ⟨hagrees, hopening, hsink⟩ := hnotice
  rw [Assembler.accept, if_pos hg]
  refine ⟨hagrees.processAll es, ?_, ?_⟩
  · rw [processAll_opening, hopening]
  · rw [processAll_sink, hsink, hagrees.handed]

end Assembler

namespace Sink

/-- Whether a queue has no room. -/
def isFull : Sink → Bool
  | .callback _ => false
  | .queue capacity waiting closed => closed || capacity ≤ waiting.length

variable {s : Sink} {messages : List Message}

theorem contents_receive (s : Sink) : s.receive.1.toList ++ s.receive.2.contents = s.contents := by
  cases s with
  | callback handed => rfl
  | queue capacity waiting closed => cases waiting <;> rfl

theorem deliver_full (h : s.isFull = true) (m : Message) : s.deliver m = (false, s) := by
  cases s with
  | callback handed => cases h
  | queue capacity waiting closed =>
    simp only [isFull, Bool.or_eq_true, decide_eq_true_eq] at h
    rw [deliver, if_neg]
    simp only [Bool.and_eq_true, Bool.not_eq_true', decide_eq_true_eq]
    rintro ⟨rfl, hlt⟩
    rcases h with h | h
    · cases h
    · omega

theorem contents_deliver (h : s.isFull = false) (m : Message) :
    (s.deliver m).2.contents = s.contents ++ [m] := by
  cases s with
  | callback handed => rfl
  | queue capacity waiting closed =>
    simp only [isFull, Bool.or_eq_false_iff, decide_eq_false_iff_not] at h
    obtain ⟨rfl, hlt⟩ := h
    rw [deliver, if_pos (by simp; omega)]
    rfl

theorem deliverAll_full (h : s.isFull = true) (messages : List Message) :
    s.deliverAll messages = s := by
  induction messages with
  | nil => rfl
  | cons m messages ih => rw [deliverAll_cons, deliver_full h, ih]

theorem contents_deliverAll (h : (s.deliverAll messages).isFull = false) :
    (s.deliverAll messages).contents = s.contents ++ messages := by
  induction messages generalizing s with
  | nil => exact (List.append_nil _).symm
  | cons m messages ih =>
    have hroom : s.isFull = false := by
      cases hs : s.isFull with
      | false => rfl
      | true =>
        rw [deliverAll_full hs, hs] at h
        cases h
    rw [deliverAll_cons] at h ⊢
    rw [ih h, contents_deliver hroom, List.append_assoc]
    rfl

end Sink

/-! ## Patches -/

/-- Something that happens beside the sender. -/
inductive Beat where
  /-- The dispatcher takes a batch from the queue and calls the handler it is for. -/
  | dispatch
  /-- The client takes a message out of the input's queue. -/
  | take
deriving Repr, DecidableEq

/-- A bus with an input on it. -/
structure Patch (η : Type) where
  bus : Bus η
  input : Input η
  /-- The handler that stands for the input. -/
  handler : η
  /-- The readings of the input's clock. -/
  clock : Nat → Time
  /-- How often the clock was read. -/
  readings : Nat := 0
  /-- What the client took out of the input's queue, the oldest first. -/
  received : List Message := []
  /-- Whether the input's queue was ever full. -/
  filled : Bool := false
  /-- What happens before each of the sender's next calls of the driver. -/
  schedule : List (List Beat) := []

namespace Patch

variable {η : Type}

/-- Fragments with successive readings of the clock. -/
def stampAll (clock : Nat → Time) : Nat → List Bytes → List RawEvent
  | _, [] => []
  | n, x :: xs => ⟨clock n, x⟩ :: stampAll clock (n + 1) xs

/-- The input's handler is called with a batch. Batches for others do not concern it. -/
def hear [DecidableEq η] (w : Patch η) (d : Delivery η) : Patch η :=
  if d.handler = w.handler then
    let input := w.input.receive d.port (stampAll w.clock w.readings d.events)
    { w with
      input
      readings := w.readings + d.events.length
      filled := w.filled || input.assembler.sink.isFull }
  else w

/-- The client takes a message, if there is one. -/
def take (w : Patch η) : Patch η :=
  { w with input := w.input.next.2, received := w.received ++ w.input.next.1.toList }

def beat [DecidableEq η] (w : Patch η) : Beat → Patch η
  | .dispatch =>
    match w.bus.dispatch with
    | (some d, bus) => { w with bus }.hear d
    | (none, bus) => { w with bus }
  | .take => w.take

def beats [DecidableEq η] (w : Patch η) (bs : List Beat) : Patch η := bs.foldl beat w

/-- What the schedule has next happens. -/
def pause [DecidableEq η] (w : Patch η) : Patch η :=
  match w.schedule with
  | [] => w
  | bs :: schedule => { w with schedule }.beats bs

/-- A call of the bus, after what the schedule has for it. -/
def call [DecidableEq η] {α : Type} (w : Patch η) (f : Bus η → α × Bus η) : α × Patch η :=
  ((f w.pause.bus).1, { w.pause with bus := (f w.pause.bus).2 })

/-- The bus as a driver, with the schedule carried out between the calls. -/
def driver [DecidableEq η] (settings : Bus.Settings) : Driver (Patch η) η :=
  let d := Bus.driver settings
  { backend := d.backend
    nameLimit := d.nameLimit
    openClient w name := w.call (d.openClient · name)
    closeClient w client := (w.call fun b => ((), d.closeClient b client)).2
    setHandler w client handler := w.call (d.setHandler · client handler)
    renameClient w client name := w.call (d.renameClient · client name)
    registerPort w client name direction kind :=
      w.call (d.registerPort · client name direction kind)
    unregisterPort w client port := (w.call fun b => ((), d.unregisterPort b client port)).2
    renamePort w client port name := w.call (d.renamePort · client port name)
    enumerate w direction := w.call (d.enumerate · direction)
    connect w client port peer :=
      let done := w.call fun b =>
        let c := d.connect b client port peer
        ((c.1, c.2.1), c.2.2)
      (done.1.1, done.1.2, done.2)
    disconnect w client port := (w.call fun b => ((), d.disconnect b client port)).2
    transmit w client port bytes encoder :=
      let done := w.call fun b =>
        let t := d.transmit b client port bytes encoder
        ((t.1, t.2.1), t.2.2)
      (done.1.1, done.1.2, done.2)
    drain w client := w.call (d.drain · client) }

/-- The messages that the input has handed out: those that the client took out of the queue, and
those that are still in it or that a callback was called with. -/
def delivered (w : Patch η) : List Message := w.received ++ w.input.assembler.sink.contents

variable {w : Patch η} {f : Filter} {s : Sink} {l : Bus.Line} {es : List RawEvent}
  {sent : List Bytes}

/-! ## Parts that stay as they are -/

@[simp] theorem take_bus (w : Patch η) : w.take.bus = w.bus := rfl

@[simp] theorem take_handler (w : Patch η) : w.take.handler = w.handler := rfl

theorem stampAll_fragments (clock : Nat → Time) (n : Nat) (xs : List Bytes) :
    (stampAll clock n xs).map (·.fragment) = xs := by
  induction xs generalizing n with
  | nil => rfl
  | cons x xs ih => rw [stampAll, List.map_cons, ih]

/-! ## What the input has heard -/

/-- The input has heard these events and nothing else since it was fresh, with the filter `f` and
the sink `s`, and has handed out what it put together. -/
structure Heard (w : Patch η) (f : Filter) (s : Sink) (l : Bus.Line) (es : List RawEvent) :
    Prop where
  gate : w.input.gate.active = some l.target
  agrees : w.input.assembler.Agrees (Assembler.processAll { filter := f, sink := s } es)
  opening : w.input.assembler.opening = w.input.gate.opening ∨ es = []
  callback : (∃ handed, s = .callback handed) →
    w.filled = false ∧ ∃ handed, w.input.assembler.sink = .callback handed
  delivered : w.filled = false →
    w.delivered = s.contents ++ Assembler.handed { filter := f, sink := s } es

theorem Heard.withBus (h : w.Heard f s l es) (bus : Bus η) : Heard { w with bus } f s l es :=
  ⟨h.gate, h.agrees, h.opening, h.callback, h.delivered⟩

theorem Heard.take (h : w.Heard f s l es) : w.take.Heard f s l es := by
  refine ⟨h.gate, ⟨h.agrees.filter, h.agrees.draft, h.agrees.continuing, h.agrees.stamper⟩,
    h.opening, fun hc => ?_, fun hf => ?_⟩
  · obtain ⟨hf, handed, hs⟩ := h.callback hc
    refine ⟨hf, handed, ?_⟩
    change w.input.assembler.sink.receive.2 = _
    rw [hs]
    rfl
  · rw [← h.delivered hf]
    change w.received ++ w.input.assembler.sink.receive.1.toList ++
      w.input.assembler.sink.receive.2.contents = _
    rw [List.append_assoc, Sink.contents_receive]
    rfl

variable [DecidableEq η]

@[simp] theorem hear_bus (w : Patch η) (d : Delivery η) : (w.hear d).bus = w.bus := by
  unfold hear
  split <;> rfl

@[simp] theorem hear_handler (w : Patch η) (d : Delivery η) : (w.hear d).handler = w.handler := by
  unfold hear
  split <;> rfl

theorem Heard.hear (h : w.Heard f s l es) (events : List Bytes) :
    (w.hear ⟨w.handler, l.target, events⟩).Heard f s l
      (es ++ stampAll w.clock w.readings events) := by
  have hn : w.input.assembler.opening = w.input.gate.opening ∨
      (Assembler.processAll { filter := f, sink := s } es).continuing = false ∧
        (Assembler.processAll { filter := f, sink := s } es).draft = {} := by
    rcases h.opening with ho | rfl
    · exact .inl ho
    · exact .inr ⟨rfl, rfl⟩
  obtain ⟨hagrees, hopening, hsink⟩ :=
    h.agrees.accept (stampAll w.clock w.readings events) h.gate hn
  have hout : w.hear ⟨w.handler, l.target, events⟩ =
      { w with
        input := w.input.receive l.target (stampAll w.clock w.readings events)
        readings := w.readings + events.length
        filled := w.filled ||
          (w.input.receive l.target (stampAll w.clock w.readings events)).assembler.sink.isFull } :=
    if_pos rfl
  rw [hout]
  refine ⟨h.gate, ?_, .inl hopening, fun hc => ?_, fun hf => ?_⟩
  · rw [Assembler.processAll_append]
    exact hagrees
  · obtain ⟨hf, handed, hs⟩ := h.callback hc
    rw [hs, Sink.deliverAll_callback] at hsink
    refine ⟨?_, _, hsink⟩
    change (w.filled || Sink.isFull (w.input.assembler.accept _ _ _).sink) = false
    rw [hf, hsink]
    rfl
  · obtain ⟨hbefore, hroom⟩ := Bool.or_eq_false_iff.mp hf
    change Sink.isFull (w.input.assembler.accept _ _ _).sink = false at hroom
    rw [hsink] at hroom
    change w.received ++ (w.input.assembler.accept _ _ _).sink.contents = _
    rw [hsink, Sink.contents_deliverAll hroom, ← List.append_assoc, Assembler.handed_append,
      ← List.append_assoc, ← h.delivered hbefore]
    rfl

/-- A batch for another port does not pass the gate. -/
theorem Heard.hear_other (h : w.Heard f s l es) {d : Delivery η} (hd : d.port ≠ l.target) :
    (w.hear d).Heard f s l es := by
  unfold Patch.hear
  split
  · have hshut : w.input.gate.active ≠ some d.port := by
      rw [h.gate]
      exact fun heq => hd (Option.some.inj heq).symm
    simp only [Input.receive, Assembler.accept, if_neg hshut]
    refine ⟨h.gate, ⟨h.agrees.filter, h.agrees.draft, h.agrees.continuing, h.agrees.stamper⟩,
      h.opening, fun hc => ?_, fun hf => h.delivered (Bool.or_eq_false_iff.mp hf).1⟩
    obtain ⟨hf, handed, hs⟩ := h.callback hc
    refine ⟨?_, handed, hs⟩
    rw [hf, hs]
    rfl
  · exact h

theorem beat_dispatch_bus (w : Patch η) : (w.beat .dispatch).bus = w.bus.dispatch.2 := by
  rw [beat]
  split
  · rename_i hd
    rw [hear_bus, hd]
  · rename_i hd
    rw [hd]

/-- Given enough time, the dispatcher empties the queue. -/
theorem beats_dispatch_queue (w : Patch η) :
    (w.beats (List.replicate w.bus.queue.length .dispatch)).bus.queue = [] := by
  induction hn : w.bus.queue.length generalizing w with
  | zero => exact List.length_eq_zero_iff.mp hn
  | succ n ih =>
    have hnext : (w.beat .dispatch).bus.queue = w.bus.queue.tail := by
      rw [beat_dispatch_bus, Bus.dispatch_queue]
    exact ih (w.beat .dispatch) (by rw [hnext, List.length_tail, hn]; rfl)

/-! ## What flows over the line -/

/-- What the input has heard and what is on its way make up what was sent. -/
structure Flows (w : Patch η) (f : Filter) (s : Sink) (l : Bus.Line) (sent : List Bytes) :
    Prop where
  carries : w.bus.Carries l w.handler
  heard : ∃ es, es.map (·.fragment) ++ w.bus.inFlight l = sent ∧ w.Heard f s l es

/-- Whatever happens beside the sender, what was sent stays the same. -/
theorem Flows.beat (h : w.Flows f s l sent) (b : Beat) :
    (w.beat b).Flows f s l sent ∧
      (w.beat b).bus.waitingFor l.sender l.target = w.bus.waitingFor l.sender l.target := by
  obtain ⟨es, hsent, hheard⟩ := h.heard
  cases b with
  | take =>
    refine ⟨⟨?_, es, ?_, hheard.take⟩, ?_⟩
    · rw [Patch.beat, take_bus, take_handler]
      exact h.carries
    · rw [Patch.beat, take_bus]
      exact hsent
    · rw [Patch.beat, take_bus]
  | dispatch =>
    obtain ⟨hcarries, hwaiting, hmoved⟩ := h.carries.dispatch
    have hwith := hheard.withBus w.bus.dispatch.2
    rw [Patch.beat]
    split
    · rename_i d bus hd
      rw [hd] at hcarries hwaiting hmoved hwith
      refine ⟨⟨?_, ?_⟩, ?_⟩
      · rw [hear_bus, hear_handler]
        exact hcarries
      · rw [hear_bus]
        rcases hmoved with ⟨events, hout, hflight⟩ | ⟨hflight, hport⟩
        · cases hout
          refine ⟨_, ?_, hwith.hear events⟩
          rw [List.map_append, stampAll_fragments, List.append_assoc, ← hflight, hsent]
        · exact ⟨es, by rw [hflight, hsent], hwith.hear_other (hport d rfl)⟩
      · rw [hear_bus]
        exact hwaiting
    · rename_i bus hd
      rw [hd] at hcarries hwaiting hmoved hwith
      refine ⟨⟨hcarries, es, ?_, hwith⟩, hwaiting⟩
      rcases hmoved with ⟨events, hout, -⟩ | ⟨hflight, -⟩
      · cases hout
      · rw [hflight, hsent]

theorem Flows.beats (h : w.Flows f s l sent) (bs : List Beat) :
    (w.beats bs).Flows f s l sent ∧
      (w.beats bs).bus.waitingFor l.sender l.target = w.bus.waitingFor l.sender l.target := by
  induction bs generalizing w with
  | nil => exact ⟨h, rfl⟩
  | cons b bs ih =>
    obtain ⟨hb, hwaiting⟩ := h.beat b
    obtain ⟨hbs, hmore⟩ := ih hb
    exact ⟨hbs, hmore.trans hwaiting⟩

/-- When nothing waits to be drained and nothing is queued any more, the input has heard all that
was sent. -/
theorem Flows.settled (h : w.Flows f s l sent) (hw : w.bus.waitingFor l.sender l.target = [])
    (later : List Beat) (hqueue : (w.beats later).bus.queue = []) :
    ∃ es, es.map (·.fragment) = sent ∧ (w.beats later).Heard f s l es := by
  obtain ⟨hlater, hstill⟩ := h.beats later
  obtain ⟨es, hsent, hheard⟩ := hlater.heard
  have hnone : (w.beats later).bus.inFlight l = [] := by
    rw [Bus.inFlight, hstill, hw, Bus.queuedFor, hqueue]
    rfl
  rw [hnone, List.append_nil] at hsent
  exact ⟨es, hsent, hheard⟩

/-- What the schedule has before a call changes nothing of that. -/
theorem Flows.pause (h : w.Flows f s l sent) :
    w.pause.Flows f s l sent ∧
      w.pause.bus.waitingFor l.sender l.target = w.bus.waitingFor l.sender l.target := by
  unfold Patch.pause
  split
  · exact ⟨h, rfl⟩
  · rename_i bs schedule _
    have hpopped : Flows { w with schedule } f s l sent := by
      obtain ⟨es, hsent, hheard⟩ := h.heard
      exact ⟨h.carries, es, hsent, ⟨hheard.gate, hheard.agrees, hheard.opening, hheard.callback,
        hheard.delivered⟩⟩
    exact hpopped.beats bs

/-- What is transmitted was sent. -/
theorem Flows.transmit (h : w.Flows f s l sent) (settings : Bus.Settings) {encoder after : Encoder}
    {bytes : Bytes} {n : Nat} (he : encoder.encode bytes = (.ok n, after)) :
    ∃ w', (driver settings).transmit w l.sender l.source bytes encoder = (.ok n, after, w') ∧
      w'.Flows f s l (sent ++ [after.event]) := by
  obtain ⟨hpaused, -⟩ := h.pause
  obtain ⟨es, hsent, hheard⟩ := hpaused.heard
  obtain ⟨bus, hcall, hcarries, hflight⟩ := hpaused.carries.transmit he
  refine ⟨{ w.pause with bus }, ?_, hcarries, es, ?_, hheard.withBus bus⟩
  · simp [driver, call, Bus.driver, hcall]
  · rw [hflight, ← List.append_assoc, hsent]

/-- Draining sends nothing, and leaves nothing in the outbox. -/
theorem Flows.drain (h : w.Flows f s l sent) (settings : Bus.Settings) :
    ∃ w', (driver settings).drain w l.sender = (.ok (), w') ∧ w'.Flows f s l sent ∧
      w'.bus.waitingFor l.sender l.target = [] := by
  obtain ⟨hpaused, -⟩ := h.pause
  obtain ⟨es, hsent, hheard⟩ := hpaused.heard
  obtain ⟨bus, hcall, hcarries, hflight, hwaiting⟩ := hpaused.carries.drain
  refine ⟨{ w.pause with bus }, ?_, ⟨hcarries, es, ?_, hheard.withBus bus⟩, hwaiting⟩
  · simp [driver, call, Bus.driver, hcall]
  · rw [hflight, hsent]

end Patch

end PatchBay
