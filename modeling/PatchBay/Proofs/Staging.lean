import PatchBay.Command.Run
import PatchBay.Proofs.Hearing
import PatchBay.Proofs.Opening
import PatchBay.Proofs.Room
import PatchBay.Proofs.Scattering
import PatchBay.Proofs.Sending
import PatchBay.Proofs.Watching

/-!
# On the stage of the self test

The self test has a bus to itself, with one output and one input on it. Whatever the dispatcher does
and however far the client has come, all there is to say about its session are the messages that are
queued on the bus, those that wait in the input's queue, and those that were told.
-/

namespace PatchBay

/-- The bytes of the message that a line tells of. -/
def Line.heard? : Line → Option Bytes
  | .message _ m _ => some m.bytes
  | _ => none

/-! ## Messages that come through -/

/-- A message that is one event of any encoder with room for it, and is handed on at once by any
assembler that keeps SysEx and has none in progress. -/
structure Travels (m : Bytes) : Prop where
  ne_nil : m ≠ []
  small : m.length ≤ Encoder.maxCapacity
  encodes : ∀ e : Encoder, m.length ≤ e.capacity →
    ∃ mode, e.encode m = (.ok m.length, { e with event := m, mode })
  arrives : ∀ a : Assembler, a.continuing = false → a.filter.ignoreSysex = false → ∀ time,
    (a.process ⟨time, m⟩).continuing = false ∧ a.emittedBytes ⟨time, m⟩ = [m]

variable {m : Bytes} {status : UInt8} {data body : Bytes}

/-- No filter drops channel messages. -/
theorem passes_voice (h : isVoice status = true) (f : Filter) (data : Bytes) :
    f.passes (status :: data) = true := by
  have hne : ∀ s : UInt8, isVoice s = false → status ≠ s := by
    rintro s hs rfl
    rw [h] at hs
    cases hs
  simp [Filter.passes, Filter.mutes, Filter.hides, hne Status.timeCode rfl,
    hne Status.timingClock rfl, hne Status.activeSensing rfl, hne Status.sysexStart rfl]

theorem travels_voice (hvoice : isVoice status = true)
    (hcount : dataCount? status = some data.length)
    (hdata : ∀ b ∈ data, isStatus b = false) (hsmall : data.length < Encoder.maxCapacity) :
    Travels (status :: data) := by
  refine ⟨List.cons_ne_nil _ _, hsmall, fun e _ => ?_, fun a hcont _ time => ?_⟩
  · have hnext : Encoder.next e.capacity e.mode (status :: data ++ []) = _ :=
      Encoder.next_message hcount hdata
    rw [List.append_nil] at hnext
    rw [Encoder.encode, hnext]
    exact ⟨_, rfl⟩
  · obtain ⟨hopen, hbytes⟩ := Assembler.short_message (e := ⟨time, status :: data⟩) hcont rfl hcount
    refine ⟨hopen, hbytes.trans ?_⟩
    rw [List.filter_cons_of_pos (passes_voice hvoice a.filter data)]
    rfl

/-- A SysEx travels, once SysEx is kept. -/
theorem travels_sysex (hbody : ∀ b ∈ body, isStatus b = false)
    (hsmall : body.length + 2 ≤ Encoder.maxCapacity) :
    Travels (Status.sysexStart :: sysexTail body true) := by
  have hlength : (Status.sysexStart :: sysexTail body true).length = body.length + 2 := by
    rw [List.length_cons, Encoder.length_sysexTail]
  refine ⟨List.cons_ne_nil _ _, hlength ▸ hsmall, fun e hroom => ?_, fun a hcont hkeeps time => ?_⟩
  · have hencode := Encoder.encode_whole (e := e) (fun b hb => Cursor.isBody_of_data (hbody b hb))
      (hlength ▸ hroom) []
    dsimp only at hencode
    rw [List.append_nil] at hencode
    exact ⟨_, hencode⟩
  · have hlast : (Status.sysexStart :: sysexTail body true).getLast? = some Status.sysexEnd := by
      rw [sysexTail, if_pos rfl, ← List.cons_append, List.getLast?_concat]
    have hkind : (Filter.classify a.continuing Status.sysexStart).isSysex = true := by
      rw [Filter.classify_eq_sysexStart.mpr rfl]
      rfl
    obtain ⟨hopen, -, hbytes⟩ := Assembler.sysex_fragment
      (e := ⟨time, Status.sysexStart :: sysexTail body true⟩) rfl hlast hkind
    refine ⟨hopen, hbytes.trans ?_⟩
    rw [if_pos ⟨rfl, hkeeps⟩, hcont]
    rfl

/-- An assembler that has none in progress hands it on as a message. -/
theorem Travels.emitted {a : Assembler} (hm : Travels m) (hcont : a.continuing = false)
    (hkeeps : a.filter.ignoreSysex = false) (time : Time) :
    ∃ message, a.emitted? ⟨time, m⟩ = some message ∧ message.bytes = m := by
  obtain ⟨-, hemitted⟩ := hm.arrives a hcont hkeeps time
  unfold Assembler.emittedBytes at hemitted
  cases hout : a.emitted? ⟨time, m⟩ with
  | none =>
    rw [hout] at hemitted
    cases hemitted
  | some message =>
    rw [hout] at hemitted
    exact ⟨message, rfl, (List.cons.inj hemitted).1⟩

namespace Command

theorem testMessages_travel : ∀ m ∈ testMessages, Travels m := by
  intro m hm
  simp only [testMessages, List.mem_cons, List.not_mem_nil, or_false] at hm
  rcases hm with rfl | rfl | rfl
  · exact travels_voice rfl rfl (by decide +kernel) (by decide +kernel)
  · have hsysex : Travels (Status.sysexStart :: sysexTail [0x7E, 0x7F, 0x06, 0x01] true) :=
      travels_sysex (by decide +kernel) (by decide +kernel)
    exact hsysex
  · exact travels_voice rfl rfl (by decide +kernel) (by decide +kernel)

end Command

/-! ## The input -/

namespace Input

/-- An input that listens on a port, keeps SysEx, has none in progress, and has `waiting` in its
queue, which has room for `capacity` messages. -/
structure Holds (i : Input Unit) (port : PortId) (capacity : Nat) (waiting : List Bytes) :
    Prop where
  gate : i.gate.active = some port
  continuing : i.assembler.continuing = false
  keeps : i.assembler.filter.ignoreSysex = false
  within : waiting.length ≤ capacity
  queue : ∃ messages, i.assembler.sink = .queue capacity messages false ∧
    messages.map (·.bytes) = waiting

variable {i : Input Unit} {port : PortId} {capacity : Nat} {waiting : List Bytes} {m : Bytes}

/-- A message that arrives waits if there is room for it, and is lost otherwise. -/
theorem Holds.receive (h : i.Holds port capacity waiting) (hm : Travels m) (time : Time) :
    (i.receive port (RawEvent.batch time [m])).Holds port capacity
      (if waiting.length < capacity then waiting ++ [m] else waiting) := by
  obtain ⟨messages, hsink, hbytes⟩ := h.queue
  let noticed := i.assembler.notice i.gate.opening
  have hcont : noticed.continuing = false := Assembler.notice_idle h.continuing _
  have hkeeps : noticed.filter.ignoreSysex = false := by
    rw [Assembler.notice_filter]
    exact h.keeps
  have hreceive : (i.receive port (RawEvent.batch time [m])).assembler =
      noticed.process ⟨time, m⟩ := by
    rw [Input.receive, Assembler.accept, if_pos h.gate]
    rfl
  obtain ⟨message, hmessage, hsame⟩ := hm.emitted hcont hkeeps time
  have hdeliver : (i.receive port (RawEvent.batch time [m])).assembler.sink =
      (Sink.deliver message (.queue capacity messages false)).2 := by
    rw [hreceive, Assembler.process_sink, hmessage, Assembler.notice_sink, hsink]
    rfl
  refine ⟨h.gate, ?_, ?_, ?_, ?_⟩
  · rw [hreceive]
    exact (hm.arrives _ hcont hkeeps time).1
  · rw [hreceive, Assembler.process_filter]
    exact hkeeps
  · split
    · rename_i hroom
      rw [List.length_append, List.length_singleton]
      exact hroom
    · exact h.within
  · have hlength : waiting.length = messages.length := by
      rw [← hbytes, List.length_map]
    rw [hdeliver, hlength, Sink.deliver]
    by_cases hroom : messages.length < capacity
    · rw [if_pos (by simp [hroom]), if_pos hroom]
      refine ⟨messages ++ [message], rfl, ?_⟩
      rw [List.map_append, hbytes, List.map_singleton, hsame]
    · rw [if_neg (by simp [hroom]), if_neg hroom]
      exact ⟨messages, rfl, hbytes⟩

theorem Holds.next_nil (h : i.Holds port capacity []) : i.next = (none, i) := by
  obtain ⟨messages, hsink, hbytes⟩ := h.queue
  rw [List.map_eq_nil_iff.mp hbytes] at hsink
  rw [next, Assembler.receive, hsink]
  dsimp only [Sink.receive]
  rw [← hsink]

/-- The client gets what has waited longest. -/
theorem Holds.next_cons (h : i.Holds port capacity (m :: waiting)) :
    ∃ message, i.next.1 = some message ∧ message.bytes = m ∧
      i.next.2.Holds port capacity waiting := by
  obtain ⟨messages, hsink, hbytes⟩ := h.queue
  obtain ⟨message, rest, rfl, hm, hrest⟩ := List.map_eq_cons_iff.mp hbytes
  rw [next, Assembler.receive, hsink]
  have hwithin := h.within
  rw [List.length_cons] at hwithin
  exact ⟨message, rfl, hm, h.gate, h.continuing, h.keeps, by omega, rest, rfl, hrest⟩

end Input

/-! ## The bus -/

namespace Bus

/-- The bus of the self test once its two ports are connected, with messages on their way. -/
def wired (c : Config) (queued : List Bytes) : Bus Unit :=
  { nextId := 5
    clients := [(system, "Loopback"), (⟨1⟩, c.output.clientName), (⟨3⟩, c.input.clientName)]
    handlers := [(⟨3⟩, ())]
    ports := [(⟨2⟩, ⟨⟨1⟩, c.output.portName, .output⟩), (⟨4⟩, ⟨⟨3⟩, c.input.portName, .input⟩)]
    subscriptions := [(⟨2⟩, ⟨4⟩)]
    queue := queued.map fun m => ⟨⟨3⟩, ⟨4⟩, [m]⟩ }

variable {c : Config} {queued : List Bytes} {m : Bytes}

theorem wired_dispatch_nil : (wired c []).dispatch = (none, wired c []) := rfl

theorem wired_dispatch_cons :
    (wired c (m :: queued)).dispatch = (some ⟨(), ⟨4⟩, [m]⟩, wired c queued) := rfl

/-- A message that is sent ends up behind those that are queued. -/
theorem wired_send (hm : Travels m) (queued : List Bytes) (e : Encoder) :
    ∃ after, e.send Session.driver ⟨1⟩ ⟨2⟩ m (wired c queued) =
      ⟨.ok 1, after, wired c (queued ++ [m])⟩ := by
  obtain ⟨grown, ready, hreserve, hroom⟩ : ∃ grown ready, e.reserve m.length = (.ok grown, ready) ∧
      m.length ≤ ready.capacity := by
    unfold Encoder.reserve
    split
    · rename_i hfits
      exact ⟨_, _, rfl, hfits⟩
    · rw [if_pos hm.small]
      exact ⟨_, _, rfl, Nat.le_refl _⟩
  obtain ⟨mode, hencode⟩ := hm.encodes ready hroom
  have hfor : ready.encodeFor m = (.ok m.length, { ready with event := m, mode }) := by
    rw [Encoder.encodeFor, hencode]
    rfl
  have htransmit : Session.driver.transmit (wired c queued) ⟨1⟩ ⟨2⟩ m ready =
      (.ok m.length, { ready with event := m, mode },
        { wired c queued with outbox := [⟨⟨1⟩, ⟨4⟩, m⟩] }) := by
    change Bus.transmit (wired c queued) ⟨1⟩ ⟨2⟩ m ready = _
    rw [Bus.transmit, hfor]
    rfl
  have hall : Encoder.transmitAll Session.driver ⟨1⟩ ⟨2⟩ 0 0 m ready (wired c queued) =
      ⟨.ok 1, { ready with event := m, mode },
        { wired c queued with outbox := [⟨⟨1⟩, ⟨4⟩, m⟩] }⟩ := by
    rw [Encoder.transmitAll_ok htransmit (List.length_pos_iff.mpr hm.ne_nil) hm.ne_nil,
      List.drop_length, Encoder.transmitAll_nil]
  have hdrain : Session.driver.drain { wired c queued with outbox := [⟨⟨1⟩, ⟨4⟩, m⟩] } ⟨1⟩ =
      (.ok (), wired c (queued ++ [m])) := by
    rw [wired, wired, List.map_append]
    rfl
  refine ⟨{ ready with event := m, mode }, ?_⟩
  rw [Encoder.send, if_neg hm.ne_nil, hreserve]
  dsimp only
  rw [hall]
  dsimp only
  rw [hdrain]

end Bus

/-! ## The session -/

namespace Session

/-- Where the session of the self test stands. -/
structure Stage (c : Config) (capacity : Nat) (queued waiting heard : List Bytes) (s : Session) :
    Prop where
  bus : s.bus = Bus.wired c queued
  travels : ∀ m ∈ queued, Travels m
  output : ∃ o, s.output = some o ∧ o.endpoint.link = .portOpen ⟨1⟩ ⟨2⟩ none
  input : ∃ i, s.input = some i ∧ i.Holds ⟨4⟩ capacity waiting
  lines : s.lines.filterMap Line.heard? = heard

variable {c : Config} {capacity : Nat} {queued waiting heard : List Bytes} {s : Session} {m : Bytes}

theorem Stage.within (h : s.Stage c capacity queued waiting heard) : waiting.length ≤ capacity := by
  obtain ⟨i, -, hholds⟩ := h.input
  exact hholds.within

theorem Stage.dispatch_nil (h : s.Stage c capacity [] waiting heard) :
    s.dispatch.Stage c capacity [] waiting heard := by
  have hdispatch : s.dispatch = { s with bus := Bus.wired c [] } := by
    rw [dispatch, h.bus, Bus.wired_dispatch_nil]
    rfl
  rw [hdispatch]
  exact ⟨rfl, h.travels, h.output, h.input, h.lines⟩

/-- The dispatcher hands the oldest message to the input. -/
theorem Stage.dispatch_cons (h : s.Stage c capacity (m :: queued) waiting heard) :
    s.dispatch.Stage c capacity queued
      (if waiting.length < capacity then waiting ++ [m] else waiting) heard := by
  obtain ⟨i, hi, hholds⟩ := h.input
  have hdispatch : s.dispatch = { s with
      bus := Bus.wired c queued
      input := some (i.receive ⟨4⟩ (RawEvent.batch s.clock [m])) } := by
    rw [dispatch, h.bus, Bus.wired_dispatch_cons]
    dsimp only [Option.toList, List.foldl_cons, List.foldl_nil, receive]
    rw [hi]
    rfl
  rw [hdispatch]
  exact ⟨rfl, fun m hm => h.travels m (List.mem_cons_of_mem _ hm), h.output,
    ⟨_, rfl, hholds.receive (h.travels m List.mem_cons_self) s.clock⟩, h.lines⟩

/-- As long as there is room, what leaves the queue of the bus joins the queue of the input. -/
theorem Stage.dispatchMany (h : s.Stage c capacity queued waiting heard) (n : Nat)
    (hroom : waiting.length + min n queued.length ≤ capacity) :
    (s.dispatchMany n).Stage c capacity (queued.drop n) (waiting ++ queued.take n) heard := by
  induction n generalizing s queued waiting with
  | zero =>
    rw [List.drop_zero, List.take_zero, List.append_nil]
    exact h
  | succ n ih =>
    cases queued with
    | nil =>
      have hsame := ih h.dispatch_nil (by simpa using hroom)
      rwa [List.drop_nil, List.take_nil] at hsame ⊢
    | cons m queued =>
      rw [List.length_cons] at hroom
      have hnext := h.dispatch_cons
      rw [if_pos (by omega)] at hnext
      have hmore := ih hnext (by rw [List.length_append, List.length_singleton]; omega)
      rwa [List.append_assoc] at hmore

/-- Whether or not there is room, no message is made up. -/
theorem Stage.dispatchMany_length (h : s.Stage c capacity queued waiting heard) (n : Nat) :
    ∃ queued' waiting', (s.dispatchMany n).Stage c capacity queued' waiting' heard ∧
      queued'.length + waiting'.length ≤ queued.length + waiting.length := by
  induction n generalizing s queued waiting with
  | zero => exact ⟨queued, waiting, h, Nat.le_refl _⟩
  | succ n ih =>
    cases queued with
    | nil => exact ih h.dispatch_nil
    | cons m queued =>
      obtain ⟨queued', waiting', hstage, hlength⟩ := ih h.dispatch_cons
      refine ⟨queued', waiting', hstage, ?_⟩
      split at hlength
      · rw [List.length_append, List.length_singleton] at hlength
        rw [List.length_cons]
        omega
      · rw [List.length_cons]
        omega

/-- Where there is no room for all, a message is lost. -/
theorem Stage.dispatchMany_lossy (h : s.Stage c capacity queued waiting heard) (n : Nat)
    (hfull : capacity < waiting.length + min n queued.length) :
    ∃ queued' waiting', (s.dispatchMany n).Stage c capacity queued' waiting' heard ∧
      queued'.length + waiting'.length < queued.length + waiting.length := by
  induction n generalizing s queued waiting with
  | zero =>
    have hwithin := h.within
    omega
  | succ n ih =>
    cases queued with
    | nil =>
      have hwithin := h.within
      rw [List.length_nil] at hfull
      omega
    | cons m queued =>
      rw [List.length_cons] at hfull ⊢
      have hnext := h.dispatch_cons
      by_cases hroom : waiting.length < capacity
      · rw [if_pos hroom] at hnext
        have hlength : (waiting ++ [m]).length = waiting.length + 1 := List.length_append
        obtain ⟨queued', waiting', hstage, hless⟩ := ih hnext (by omega)
        exact ⟨queued', waiting', hstage, by omega⟩
      · rw [if_neg hroom] at hnext
        obtain ⟨queued', waiting', hstage, hless⟩ := hnext.dispatchMany_length n
        exact ⟨queued', waiting', hstage, by omega⟩

/-! ## Waiting for a message -/

theorem Stage.next_nil (h : s.Stage c capacity queued [] heard) : s.next = (none, s) := by
  obtain ⟨i, hi, hholds⟩ := h.input
  rw [next, hi, Option.map_some, hholds.next_nil]
  dsimp only
  rw [← hi]

theorem Stage.next_cons (h : s.Stage c capacity queued (m :: waiting) heard) :
    ∃ message s', s.next = (some message, s') ∧ message.bytes = m ∧
      s'.Stage c capacity queued waiting heard := by
  obtain ⟨i, hi, hholds⟩ := h.input
  obtain ⟨message, hmessage, hbytes, hafter⟩ := hholds.next_cons
  refine ⟨message, { s with input := some i.next.2 }, ?_, hbytes, h.bus, h.travels, h.output,
    ⟨_, rfl, hafter⟩, h.lines⟩
  rw [next, hi, Option.map_some, ← hmessage]

theorem awaitWithin_next {message : Message} {s' : Session} (h : s.next = (some message, s'))
    (n : Nat) : awaitWithin n s = (some message, s') := by
  cases n with
  | zero => exact h
  | succ n => rw [awaitWithin, h]

/-- A message that waits is there at once. -/
theorem Stage.await_waiting (h : s.Stage c capacity queued (m :: waiting) heard) :
    ∃ message s', s.await = (some message, s') ∧ message.bytes = m ∧
      s'.Stage c capacity queued waiting heard := by
  obtain ⟨message, s', hnext, hbytes, hstage⟩ := h.next_cons
  exact ⟨message, s', awaitWithin_next hnext _, hbytes, hstage⟩

/-- If no message waits, the dispatcher has time to deliver the next one. -/
theorem Stage.await_queued (h : s.Stage c capacity (m :: queued) [] heard) (hroom : 0 < capacity) :
    ∃ message s', s.await = (some message, s') ∧ message.bytes = m ∧
      s'.Stage c capacity queued [] heard := by
  have hdelivered := h.dispatch_cons
  rw [List.length_nil, if_pos hroom, List.nil_append] at hdelivered
  obtain ⟨message, s', hnext, hbytes, hstage⟩ := hdelivered.next_cons
  refine ⟨message, s', ?_, hbytes, hstage⟩
  have hlength : s.bus.queue.length = queued.length + 1 := by
    rw [h.bus, Bus.wired, List.length_map, List.length_cons]
  rw [await, hlength, awaitWithin, h.next_nil]
  exact awaitWithin_next hnext _

theorem Stage.await_none (h : s.Stage c capacity [] [] heard) : s.await = (none, s) := by
  have hlength : s.bus.queue.length = 0 := by
    rw [h.bus, Bus.wired, List.length_map, List.length_nil]
  rw [await, hlength, awaitWithin, h.next_nil]

theorem Stage.tell (h : s.Stage c capacity queued waiting heard) (line : Line) :
    (s.tell line).Stage c capacity queued waiting (heard ++ line.heard?.toList) := by
  refine ⟨h.bus, h.travels, h.output, h.input, ?_⟩
  rw [Session.tell, List.filterMap_append, h.lines]
  cases hline : line.heard? <;> simp [hline]

/-- A message that is told of is the last one that was heard. -/
theorem Stage.tell_message {message : Message} (h : s.Stage c capacity queued waiting heard)
    (hbytes : message.bytes = m) (before after : String) :
    (s.tell (.message before message after)).Stage c capacity queued waiting (heard ++ [m]) := by
  have htold := h.tell (.message before message after)
  rwa [Line.heard?, Option.toList_some, hbytes] at htold

/-! ## Steps one after the other -/

variable {α β : Type} {x : Step α} {f : α → Step β} {a : α} {s' : Session} {failure : Failure}

theorem run_bind_ok (h : x.run s = (.ok a, s')) : (x >>= f).run s = (f a).run s' := by
  have hbind (g : Except Failure α → StateM Session (Except Failure β)) :
      (x.run >>= g) s = g (x.run s).1 (x.run s).2 := rfl
  rw [ExceptT.run_bind, hbind, h]

theorem run_bind_error (h : x.run s = (.error failure, s')) :
    (x >>= f).run s = (.error failure, s') := by
  have hbind (g : Except Failure α → StateM Session (Except Failure β)) :
      (x.run >>= g) s = g (x.run s).1 (x.run s).2 := rfl
  rw [ExceptT.run_bind, hbind, h]
  rfl

theorem run_get : (get : Step Session).run s = (.ok s, s) := rfl

theorem run_modify (g : Session → Session) : (modify g : Step PUnit).run s = (.ok (), g s) := rfl

theorem run_set (s' : Session) : (set s' : Step PUnit).run s = (.ok (), s') := rfl

/-- Sending puts the message behind those that are queued. -/
theorem Stage.emit (h : s.Stage c capacity queued waiting heard) (hm : Travels m)
    (wrap : SendError → Failure) :
    ∃ s', (Session.emit wrap m).run s = (.ok (), s') ∧
      s'.Stage c capacity (queued ++ [m]) waiting heard := by
  obtain ⟨o, ho, hlink⟩ := h.output
  obtain ⟨after, hsend⟩ := Bus.wired_send (c := c) hm queued o.encoder
  have hdone : o.send driver s.bus m =
      (.ok (), { o with encoder := after }, Bus.wired c (queued ++ [m])) := by
    rw [Output.send, hlink, h.bus]
    dsimp only
    rw [hsend]
    rfl
  refine ⟨{ s with bus := Bus.wired c (queued ++ [m]), output := some { o with encoder := after } },
    ?_, rfl, ?_, ⟨_, rfl, hlink⟩, h.input, h.lines⟩
  · rw [Session.emit, run_bind_ok run_get, ho]
    dsimp only
    rw [hdone]
    rfl
  · intro m' hm'
    rcases List.mem_append.mp hm' with hm' | hm'
    · exact h.travels m' hm'
    · rw [List.mem_singleton.mp hm']
      exact hm

/-! ## Setting the stage -/

theorem run_withOutput {output : Output Unit} {wrap : PortError → Failure}
    {operation : Output Unit → Bus Unit → Outcome (Output Unit) (Bus Unit) Unit Unit}
    {subject : Output Unit} {bus : Bus Unit}
    (h : operation output s.bus = { result := .ok (), subject, driver := bus }) :
    (withOutput wrap output operation).run s =
      (.ok (), { s with bus, output := some subject }) := by
  rw [withOutput, run_bind_ok run_get]
  dsimp only
  rw [h]
  dsimp only
  rw [run_bind_ok (run_modify _), List.map_nil, List.append_nil]
  rfl

theorem run_withInput {input : Input Unit} {wrap : PortError → Failure}
    {operation : Input Unit → Bus Unit → Outcome (Input Unit) (Bus Unit) Unit Unit}
    {subject : Input Unit} {bus : Bus Unit}
    (h : operation input s.bus = { result := .ok (), subject, driver := bus }) :
    (withInput wrap input operation).run s = (.ok (), { s with bus, input := some subject }) := by
  rw [withInput, run_bind_ok run_get]
  dsimp only
  rw [h]
  dsimp only
  rw [run_bind_ok (run_modify _), List.map_nil, List.append_nil]
  rfl

end Session

/-- The names that a configuration gives to clients and ports are short enough for the bus. -/
structure Config.FitsBus (c : Config) : Prop where
  output : c.output.clientName.utf8ByteSize + 1 + c.output.portName.utf8ByteSize ≤
    ({} : Bus.Settings).nameLimit
  input : c.input.clientName.utf8ByteSize + 1 + c.input.portName.utf8ByteSize ≤
    ({} : Bus.Settings).nameLimit

namespace Session

variable {c : Config}

/-- The bus once the output has published its port. -/
def published (c : Config) : Bus Unit :=
  { nextId := 3
    clients := [(Bus.system, "Loopback"), (⟨1⟩, c.output.clientName)]
    ports := [(⟨2⟩, ⟨⟨1⟩, c.output.portName, .output⟩)] }

theorem openVirtualPort_first (h : c.FitsBus) :
    ∃ o : Output Unit, o.endpoint.link = .portOpen ⟨1⟩ ⟨2⟩ none ∧
      (Output.ofSettings c.output).openVirtualPort driver {} c.output.portName =
        { result := .ok (), subject := o, driver := published c } := by
  let o : Output Unit := .ofSettings c.output
  have hfits : o.endpoint.Fits driver.nameLimit c.output.portName := by
    rintro limit ⟨⟩
    exact h.output
  have hregister : o.endpoint.register driver {} c.output.portName .virtual =
      { result := .ok ⟨2⟩, subject := { o.endpoint with link := .portOpen ⟨1⟩ ⟨2⟩ none },
        driver := published c } :=
    Endpoint.register_new rfl rfl (Endpoint.checkName_of_fits hfits)
  refine ⟨{ o with endpoint := { o.endpoint with link := .portOpen ⟨1⟩ ⟨2⟩ none } }, rfl, ?_⟩
  rw [Output.openVirtualPort, Endpoint.openVirtualPort, hregister]
  rfl

theorem openPort_second (h : c.FitsBus) (settings : Input.Settings)
    (hname : settings.clientName = c.input.clientName)
    (hkeeps : settings.filter.ignoreSysex = false) :
    ∃ i : Input Unit, i.Holds ⟨4⟩ (max settings.queueCapacity 1) [] ∧
      (Input.ofSettings settings .queue ()).openPort driver (published c) 0 c.input.portName =
        { result := .ok (), subject := i, driver := Bus.wired c [] } := by
  let i : Input Unit := .ofSettings settings .queue ()
  let unsubscribed : Bus Unit := { Bus.wired c [] with subscriptions := [] }
  let ready : Endpoint Unit := { i.endpoint with link := .portOpen ⟨3⟩ ⟨4⟩ none, handler := none }
  let source : Peer := ⟨c.output.clientName ++ ":" ++ c.output.portName, Bus.address ⟨2⟩⟩
  let connected : Endpoint Unit :=
    { ready with link := .portOpen ⟨3⟩ ⟨4⟩ (some source.address) }
  have hfits : i.endpoint.Fits driver.nameLimit c.input.portName := by
    rintro limit ⟨⟩
    have hinput := h.input
    rw [← hname] at hinput
    exact hinput
  have hregister : i.endpoint.register driver (published c) c.input.portName .connectable =
      { result := .ok ⟨4⟩, subject := ready, driver := unsubscribed } := by
    dsimp only [unsubscribed]
    rw [Bus.wired, ← hname]
    exact Endpoint.register_new rfl rfl (Endpoint.checkName_of_fits hfits)
  have hlist : driver.enumerate unsubscribed ready.direction = ([source], unsubscribed) := rfl
  have hpeer : [source][0]? = some source := rfl
  have hconnect : driver.connect unsubscribed ⟨3⟩ ⟨4⟩ source.address =
      (.ok (), [], Bus.wired c []) := by
    have hbus : unsubscribed.connect ⟨3⟩ ⟨4⟩ source.address = (.ok (), Bus.wired c []) := by
      rw [Bus.connect, Bus.portAt?_address]
      rfl
    change ((unsubscribed.connect ⟨3⟩ ⟨4⟩ source.address).1, _,
      (unsubscribed.connect ⟨3⟩ ⟨4⟩ source.address).2) = _
    rw [hbus]
  have hopen : ready.connectPort driver unsubscribed 0 =
      { result := .ok (), subject := connected, driver := Bus.wired c [] } := by
    rw [Endpoint.connectPort_listed rfl hlist hpeer hconnect]
    rfl
  refine ⟨((i.withEndpoint ready).activate ⟨4⟩).withEndpoint connected,
    ⟨rfl, rfl, hkeeps, Nat.zero_le _, [], rfl, rfl⟩, ?_⟩
  have hclosed : ¬ i.endpoint.isConnected = true := Bool.false_ne_true
  rw [Input.openPort, if_neg hclosed, hregister]
  change Outcome.within (ready.connectPort driver unsubscribed 0)
    ((i.withEndpoint ready).activate ⟨4⟩).withEndpoint = _
  rw [hopen]
  rfl

end Session

end PatchBay
