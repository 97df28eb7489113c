import PatchBay.Proofs.Capacity
import PatchBay.Proofs.Joining
import PatchBay.Proofs.OpenSysex
import PatchBay.Proofs.Sending

/-!
# Output and input agree on an open SysEx

An output sends any bytes that it can send, in any parts, to an input that it is joined to. When
nothing is queued any more, its encoder and the input's assembler agree on whether a SysEx is open,
unless the last SysEx was broken off by a status byte: then the encoder has forgotten it, and the
assembler waits for its closing byte.
-/

namespace PatchBay

/-! ## A stream -/

/-- Whether a SysEx is in progress after some fragments in a row. -/
def Filter.follow (f : Filter) (continuing : Bool) (fragments : List Bytes) : Bool :=
  fragments.foldl (fun c x => (f.apply c x).2) continuing

theorem Filter.follow_append (f : Filter) (c : Bool) (first second : List Bytes) :
    f.follow c (first ++ second) = f.follow (f.follow c first) second :=
  List.foldl_append

namespace Assembler

variable {a : Assembler} {e : RawEvent}

theorem processAll_continuing (a : Assembler) (es : List RawEvent) :
    (a.processAll es).continuing = a.filter.follow a.continuing (es.map (·.fragment)) := by
  induction es generalizing a with
  | nil => rfl
  | cons e es ih =>
    rw [processAll_cons, ih, process_filter, process_continuing]
    rfl

/-- A message of fixed length leaves a SysEx as open as it was, and is handed out if none is. -/
theorem process_message {status : UInt8} {data : Bytes} (he : e.fragment = status :: data)
    (hn : dataCount? status = some data.length) (hdata : ∀ b ∈ data, isStatus b = false) :
    (a.process e).continuing = a.continuing ∧
      a.emittedBytes e =
        if a.continuing then [] else [e.fragment].filter a.filter.passes := by
  cases hc : a.continuing with
  | false =>
    obtain ⟨hcontinuing, hemitted⟩ := short_message hc he hn
    exact ⟨hcontinuing, hemitted⟩
  | true =>
    have hopen : (a.judge e.fragment).2 = true := by
      rw [judge, hc, he]
      exact Filter.apply_quiet (isBound_of_dataCount hn) hdata
    have hheld : (a.judge e.fragment).1.deliver = false := by
      rw [judge_deliver, hopen, Bool.not_true, Bool.and_false]
    refine ⟨by rw [process_continuing, hopen], ?_⟩
    rw [emittedBytes_eq, hheld]
    rfl

end Assembler

namespace Encoder

variable {e : Encoder} {bytes x : Bytes} {f : Filter} {c : Bool} {sent : List Bytes}

/-- Encoding bytes to the end moves the flags of encoder and assembler as the bytes have it. -/
theorem encodeAll_flags (hr : RunsVoice e.mode.running)
    (hok : failure? (e.encodeAll bytes).1 = none) (hc : e.mode.inSysex = true → c = true) :
    let after := (e.encodeAll bytes).2.mode
    let heard := f.follow c (events (e.encodeAll bytes).1)
    RunsVoice after.running ∧
      after.inSysex = latestOpens isCommon e.mode.inSysex bytes ∧
      heard = latestOpens isBound c bytes ∧ (after.inSysex = true → heard = true) := by
  induction hn : bytes.length using Nat.strongRecOn generalizing bytes e c with
  | ind m ih =>
    subst hn
    by_cases hne : bytes = []
    · subst hne
      rw [encodeAll_nil]
      exact ⟨hr, rfl, rfl, hc⟩
    cases hnext : next e.capacity e.mode bytes with
    | mk result mode =>
      cases result with
      | error err =>
        have hencode : e.encode bytes = (.error err, { e with event := [], mode }) := by
          rw [encode, hnext]
        rw [encodeAll_error hne hencode] at hok
        cases hok
      | ok event =>
        have hencode : e.encode bytes =
            (.ok event.consumed, { e with event := event.bytes, mode }) := by
          rw [encode, hnext]
        obtain ⟨piece, rest, rfl, hlen, htakes, hvoice⟩ := next_takes hr hnext
        obtain ⟨happly, hopen⟩ := htakes.latestOpens_isBound f hc
        have hpos := (next_consumed hnext).1
        rw [encodeAll_ok hencode, hlen, List.drop_left] at hok ⊢
        obtain ⟨hvoice', hcommon, hbound, hopen'⟩ :=
          ih rest.length (by rw [List.length_append]; omega)
            (e := { e with event := event.bytes, mode }) hvoice hok hopen rfl
        refine ⟨hvoice', ?_, ?_, hopen'⟩
        · rw [← htakes.latestOpens_isCommon]
          exact hcommon
        · rw [latestOpens_append, ← happly]
          exact hbound

/-- The mode of an encoder, and the SysEx that an assembler has been told of by its events, are as
the bytes so far have it. -/
structure Told (mode : Mode) (f : Filter) (sent : List Bytes) (bytes : Bytes) : Prop where
  voice : RunsVoice mode.running
  encoder : mode.inSysex = latestOpens isCommon false bytes
  assembler : f.follow false sent = latestOpens isBound false bytes
  still : mode.inSysex = true → f.follow false sent = true

theorem told_nothing (f : Filter) : Told {} f [] [] := ⟨runsVoice_none, rfl, rfl, nofun⟩

theorem Told.encodeAll (h : Told e.mode f sent bytes)
    (hok : failure? (e.encodeAll x).1 = none) :
    Told (e.encodeAll x).2.mode f (sent ++ events (e.encodeAll x).1) (bytes ++ x) := by
  obtain ⟨hvoice, hcommon, hbound, hopen⟩ := encodeAll_flags h.voice hok h.still
  refine ⟨hvoice, ?_, ?_, ?_⟩
  · rw [hcommon, h.encoder, latestOpens_append]
  · rw [Filter.follow_append, hbound, h.assembler, latestOpens_append]
  · rw [Filter.follow_append]
    exact hopen

end Encoder

namespace Patch

variable {η : Type} [DecidableEq η] {w : Patch η} {f : Filter} {s : Sink} {l : Bus.Line}
  {sent : List Bytes} {e after : Encoder} {bytes x : Bytes}

/-! ## Sends that get through -/

/-- What cannot be encoded is not transmitted. -/
theorem Flows.transmit_error (h : w.Flows f s l sent) (settings : Bus.Settings) {err : EncodeError}
    (he : e.encode bytes = (.error err, after)) :
    ∃ w', (driver settings).transmit w l.sender l.source bytes e =
      (.error (.ofEncode err), after, w') := by
  obtain ⟨hpaused, -⟩ := h.pause
  obtain ⟨own, hown, hdirection⟩ := Bus.ownPort_source hpaused.carries
  have hfor : e.encodeFor bytes = (.error (.ofEncode err), after) := by
    rw [Encoder.encodeFor, he]
    rfl
  refine ⟨w.pause, ?_⟩
  simp [driver, call, Bus.driver, Bus.transmit, hown, hdirection, hfor]

/-- Bytes that went out were encoded to the end, and every event is on its way. -/
theorem Flows.transmitAll_of_ok (settings : Bus.Settings) (h : w.Flows f s l sent)
    {offset count total : Nat} :
    let done := Encoder.transmitAll (driver settings) l.sender l.source offset count x e w
    done.result = .ok total →
      Encoder.failure? (e.encodeAll x).1 = none ∧ done.encoder = (e.encodeAll x).2 ∧
        done.driver.Flows f s l (sent ++ Encoder.events (e.encodeAll x).1) := by
  induction hn : x.length using Nat.strongRecOn generalizing x w e sent offset count with
  | ind m ih =>
    subst hn
    intro done hdone
    by_cases hx : x = []
    · subst hx
      have hnil : done = ⟨.ok count, e, w⟩ := Encoder.transmitAll_nil e w
      rw [hnil, Encoder.encodeAll_nil]
      refine ⟨rfl, rfl, ?_⟩
      rwa [Encoder.events, List.filterMap_nil, List.append_nil]
    cases hencode : e.encode x with
    | mk result after =>
      cases result with
      | error err =>
        obtain ⟨w', htransmit⟩ := h.transmit_error settings hencode
        obtain ⟨first, more, rfl⟩ := List.exists_cons_of_ne_nil hx
        have hfailed : done.result = .error (.ofTransmit offset (.ofEncode err)) := by
          change (Encoder.transmitAll _ _ _ _ _ (first :: more) _ _).result = _
          rw [Encoder.transmitAll, htransmit]
        rw [hfailed] at hdone
        cases hdone
      | ok n =>
        obtain ⟨hpos, hle⟩ := Encoder.encode_consumed hencode
        obtain ⟨w', htransmit, hflows⟩ := h.transmit settings hencode
        have hmore : done = _ := Encoder.transmitAll_ok htransmit hpos hx
        rw [hmore] at hdone ⊢
        obtain ⟨hfailure, hencoder, hflows'⟩ :=
          ih (x.drop n).length (by rw [List.length_drop]; omega) hflows rfl hdone
        rw [Encoder.encodeAll_ok hencode]
        refine ⟨hfailure, hencoder, ?_⟩
        rwa [List.append_assoc] at hflows'

/-- A send that gets through tells the input of its bytes, and leaves nothing in the outbox. -/
theorem Flows.send_of_ok (settings : Bus.Settings) (h : w.Flows f s l sent)
    (ht : Encoder.Told e.mode f sent bytes) (hw : w.bus.waitingFor l.sender l.target = [])
    {total : Nat} :
    let done := e.send (driver settings) l.sender l.source x w
    done.result = .ok total →
      ∃ events, done.driver.Flows f s l (sent ++ events) ∧
        Encoder.Told done.encoder.mode f (sent ++ events) (bytes ++ x) ∧
        done.driver.bus.waitingFor l.sender l.target = [] := by
  intro done hdone
  by_cases hx : x = []
  · have hnil : done = ⟨.ok 0, e, w⟩ := if_pos hx
    rw [hnil, hx]
    refine ⟨[], ?_, ?_, hw⟩
    · rwa [List.append_nil]
    · rwa [List.append_nil, List.append_nil]
  have hsend : done = _ := if_neg hx
  rw [hsend] at hdone ⊢
  cases hreserve : e.reserve x.length with
  | mk grown e1 =>
    rw [hreserve] at hdone
    have hmode : e1.mode = e.mode := by
      have hsame := congrArg (fun r => r.2.mode) hreserve
      rw [← hsame]
      unfold Encoder.reserve
      split
      · rfl
      · split <;> rfl
    cases grown with
    | error err => cases hdone
    | ok grown =>
      dsimp only at hdone ⊢
      cases hloop : Encoder.transmitAll (driver settings) l.sender l.source 0 0 x e1 w with
      | mk result after w1 =>
        rw [hloop] at hdone
        cases result with
        | error err => cases hdone
        | ok count =>
          have hout := h.transmitAll_of_ok settings (congrArg Sent.result hloop)
          rw [hloop] at hout
          obtain ⟨hfailure, hencoder, hflows⟩ := hout
          obtain ⟨w', hdrain, hflows', hwaiting⟩ := hflows.drain settings
          rw [← hmode] at ht
          have htold := ht.encodeAll hfailure
          rw [← hencoder] at htold
          dsimp only
          rw [hdrain]
          exact ⟨_, hflows', htold, hwaiting⟩

/-- Parts that all get through tell the input of all their bytes. -/
theorem Flows.sendAll_of_ok (settings : Bus.Settings) {o : Output η} {peer : Option Address}
    {parts : List Bytes} (hlink : o.endpoint.link = .portOpen l.sender l.source peer)
    (h : w.Flows f s l sent) (ht : Encoder.Told o.encoder.mode f sent bytes)
    (hw : w.bus.waitingFor l.sender l.target = []) :
    let done := o.sendAll (driver settings) w parts
    (∀ r ∈ done.1, r = .ok ()) →
      ∃ events, done.2.2.Flows f s l (sent ++ events) ∧
        Encoder.Told done.2.1.encoder.mode f (sent ++ events) (bytes ++ parts.flatten) ∧
        done.2.2.bus.waitingFor l.sender l.target = [] := by
  induction parts generalizing w o sent bytes with
  | nil =>
    intro done _
    refine ⟨[], ?_, ?_, hw⟩
    · rwa [List.append_nil]
    · rwa [List.flatten_nil, List.append_nil, List.append_nil]
  | cons part parts ih =>
    intro done hall
    cases hsend : o.encoder.send (driver settings) l.sender l.source part w with
    | mk result after w1 =>
      have hdone : o.send (driver settings) w part =
          (result.map fun _ => (), { o with encoder := after }, w1) := by
        rw [Output.send, hlink]
        simp only [hsend]
      have hsplit : done = ((result.map fun _ => ()) ::
          (Output.sendAll (driver settings) { o with encoder := after } w1 parts).1,
          (Output.sendAll (driver settings) { o with encoder := after } w1 parts).2) := by
        change Output.sendAll _ o w (part :: parts) = _
        rw [Output.sendAll, hdone]
      rw [hsplit] at hall ⊢
      cases result with
      | error err => cases hall _ List.mem_cons_self
      | ok total =>
        have hout := h.send_of_ok settings ht hw (congrArg Sent.result hsend)
        rw [hsend] at hout
        obtain ⟨events, hflows, htold, hwaiting⟩ := hout
        obtain ⟨more, hflows', htold', hwaiting'⟩ :=
          ih (o := { o with encoder := after }) hlink hflows htold hwaiting
            fun r hr => hall r (List.mem_cons_of_mem _ hr)
        refine ⟨events ++ more, ?_, ?_, hwaiting'⟩
        · rwa [← List.append_assoc]
        · rwa [List.flatten_cons, ← List.append_assoc, ← List.append_assoc]

/-! ## Output and input -/

/-- **What the two ends take for open.** A fresh output sends any parts to a fresh input that it is
joined to, while dispatcher and client run as any schedule has it, and every send gets through. The
dispatcher empties the queue, and whatever else happens, once the queue is empty the input takes a
SysEx for open wherever the output does, and the two differ exactly if the last SysEx has been
broken off by a status byte and not been closed since. A message that reaches the input then leaves
that as it is. The input hands the message out, if its filter does not ignore it, exactly if it
takes no SysEx for open. -/
theorem open_sysex_agrees (settings : Bus.Settings) (mode : Input.Mode) (o : Output η) (w : Patch η)
    (l : Bus.Line) (parts : List Bytes) (hjoined : w.Joined mode o l)
    (hall : ∀ r ∈ (o.sendAll (driver settings) w parts).1, r = .ok ()) :
    let sent := o.sendAll (driver settings) w parts
    (∃ n, (sent.2.2.beats (List.replicate n .dispatch)).bus.queue = []) ∧
      ∀ later : List Beat, (sent.2.2.beats later).bus.queue = [] →
        let sender := sent.2.1.encoder.mode.inSysex
        let receiver := (sent.2.2.beats later).input.assembler
        (sender = true → receiver.continuing = true) ∧
          (receiver.continuing ≠ sender ↔ BrokenOff parts.flatten) ∧
          ∀ (e : RawEvent) (status : UInt8) (data : Bytes), e.fragment = status :: data →
            dataCount? status = some data.length → (∀ b ∈ data, isStatus b = false) →
            (receiver.process e).continuing = receiver.continuing ∧
              receiver.emittedBytes e =
                if receiver.continuing then []
                else [e.fragment].filter w.input.settings.filter.passes := by
  intro sent
  refine ⟨⟨_, beats_dispatch_queue _⟩, fun later hqueue => ?_⟩
  intro sender receiver
  obtain ⟨peer, hlink⟩ := hjoined.output
  have hwaiting := (List.append_eq_nil_iff.mp hjoined.quiet).2
  have hnothing : Encoder.Told o.encoder.mode w.input.settings.filter [] [] := by
    rw [hjoined.encoder]
    exact Encoder.told_nothing _
  obtain ⟨events, hflows, htold, hdrained⟩ :=
    hjoined.flows.sendAll_of_ok settings hlink hnothing hwaiting hall
  obtain ⟨es, hsent, hheard⟩ := hflows.settled hdrained later hqueue
  rw [List.nil_append] at htold
  have hreceiver : receiver.continuing = latestOpens isBound false parts.flatten := by
    rw [hheard.agrees.continuing, Assembler.processAll_continuing, hsent]
    exact htold.assembler
  have hfilter : receiver.filter = w.input.settings.filter := by
    rw [hheard.agrees.filter, Assembler.processAll_filter]
  have hsender : sender = latestOpens isCommon false parts.flatten := htold.encoder
  obtain ⟨hopen, hdiffer⟩ := latestOpens_brokenOff parts.flatten
  refine ⟨?_, ?_, fun e status data he hn hdata => ?_⟩
  · rw [hsender, hreceiver]
    exact hopen
  · rw [hsender, hreceiver]
    exact hdiffer
  · rw [← hfilter]
    exact Assembler.process_message he hn hdata

/-- A SysEx is begun in one part and goes on in the next, around a clock tick. Both ends take it for
open, and a note would not be handed out. -/
theorem open_sysex_agrees_in_progress :
    let i := (Input.ofSettings { filter := ⟨false, false, false⟩ } .callback ()).openVirtualPort
      (Bus.driver {}) {} "in"
    let o := (Output.ofSettings {}).openPort (Bus.driver {}) i.driver 0 "out"
    let w : Patch Unit :=
      { bus := o.driver, input := i.subject, handler := (), clock := fun _ => {},
        schedule := [[], [.dispatch]] }
    let sent := o.subject.sendAll (driver {}) w [[0xF0, 0x01], [0x02, 0xF8, 0x03]]
    ∃ n, (sent.2.2.beats (List.replicate n .dispatch)).bus.queue = [] ∧
      sent.2.1.encoder.mode.inSysex = true ∧
      (sent.2.2.beats (List.replicate n .dispatch)).input.assembler.continuing = true ∧
      (sent.2.2.beats (List.replicate n .dispatch)).input.assembler.emittedBytes
        ⟨{}, [0x90, 0x3C, 0x40]⟩ = [] := by
  intro i o w sent
  obtain ⟨l, hjoined⟩ : ∃ l, w.Joined .callback o.subject l :=
    joined_of_virtual_input Bus.numbered_empty (by decide) rfl rfl rfl rfl _ _
  have hall : ∀ r ∈ sent.1, r = .ok () := by decide +kernel
  obtain ⟨⟨n, hqueue⟩, hagrees⟩ := open_sysex_agrees {} .callback o.subject w l _ hjoined hall
  obtain ⟨hopen, -, hmessage⟩ := hagrees _ hqueue
  have hsender : sent.2.1.encoder.mode.inSysex = true := by decide +kernel
  have hreceiver := hopen hsender
  have hdata : ∀ b ∈ [0x3C, 0x40], isStatus b = false := by decide +kernel
  obtain ⟨-, hheld⟩ := hmessage ⟨{}, [0x90, 0x3C, 0x40]⟩ 0x90 [0x3C, 0x40] rfl rfl hdata
  rw [hreceiver] at hheld
  exact ⟨n, hqueue, hsender, hreceiver, hheld⟩

/-- A note breaks a SysEx off. For the output the SysEx has ended; the input takes it for open when
nothing is queued any more, and the note is lost in it. -/
theorem broken_off_sysex_stays_open :
    let i := (Input.ofSettings {} .callback ()).openVirtualPort (Bus.driver {}) {} "in"
    let o := (Output.ofSettings {}).openPort (Bus.driver {}) i.driver 0 "out"
    let w : Patch Unit :=
      { bus := o.driver, input := i.subject, handler := (), clock := fun _ => {} }
    let sent := o.subject.sendAll (driver {}) w [[0xF0, 0x01], [0x90, 0x3C, 0x40]]
    let settled := sent.2.2.beats [.dispatch, .dispatch]
    (∃ l, w.Joined .callback o.subject l) ∧ (∀ r ∈ sent.1, r = .ok ()) ∧
      settled.bus.queue = [] ∧ sent.2.1.encoder.mode.inSysex = false ∧
      settled.input.assembler.continuing = true ∧ settled.delivered = [] := by
  intro i o w sent settled
  refine ⟨joined_of_virtual_input Bus.numbered_empty (by decide) rfl rfl rfl rfl _ _, ?_⟩
  decide +kernel

end Patch

end PatchBay
