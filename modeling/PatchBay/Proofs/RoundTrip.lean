import PatchBay.Proofs.Hearing
import PatchBay.Proofs.Joining
import PatchBay.Proofs.Sending

/-!
# From messages to messages

A stream of messages is sent in parts over the bus, while the dispatcher and the client on the other
side do what they do. Every part goes out, and when nothing is queued any more the input has handed
out the messages of the stream that its filter does not ignore.
-/

namespace PatchBay

namespace Patch

open Cursor

variable {η : Type} [DecidableEq η] {c : Cursor}

/-- Where nothing is left to send no message is owed. -/
theorem owed_nil {mode : Encoder.Mode} (hr : c.Ready mode) (hs : c.stream = []) : c.owed = [] := by
  cases c with
  | between ps =>
    cases ps with
    | nil => rfl
    | cons p ps =>
      obtain ⟨-, hvoice, ⟨hform, -⟩, -⟩ := hr
      exact absurd (List.append_eq_nil_iff.mp hs).1 (hform.bytes_ne_nil hvoice)
  | inside _ left ps =>
    have hne : sysexTail left true ≠ [] :=
      List.append_ne_nil_of_right_ne_nil _ (List.cons_ne_nil _ _)
    exact absurd (List.append_eq_nil_iff.mp hs).1 hne

/-- **The round trip.** Well-formed messages are spelled one after the other, with any status bytes
left out that running status allows, and the spelling is cut into parts between messages and inside
SysEx in any way. A fresh output that is joined to a fresh input sends part after part, while
dispatcher and client run as any schedule has it. Every part goes out, the dispatcher empties the
queue, and whatever else happens, once the queue is empty an input with a callback, or with a queue
that was never full, has handed out just those messages that its filter does not ignore, in
order. No part is longer than memory can hold, which bounds what an encoder may be grown to. -/
theorem round_trip (settings : Bus.Settings) (mode : Input.Mode) (o : Output η) (w : Patch η)
    (l : Bus.Line) (phrases : List Phrase) (parts : List Bytes) (hjoined : w.Joined mode o l)
    (hphrases : Sentence none phrases []) (hmessages : ∀ p ∈ phrases, p.IsMessage)
    (hparts : parts.flatten = spelling phrases)
    (hcuts : ∀ k, Cuttable phrases (parts.take k).flatten.length)
    (hsize : ∀ part ∈ parts, part.length ≤ Encoder.maxCapacity) :
    let sent := o.sendAll (driver settings) w parts
    (∀ r ∈ sent.1, r = .ok ()) ∧
      (∃ n, (sent.2.2.beats (List.replicate n .dispatch)).bus.queue = []) ∧
      ∀ later : List Beat, (sent.2.2.beats later).bus.queue = [] →
        mode = .callback ∨ (sent.2.2.beats later).filled = false →
        (sent.2.2.beats later).delivered.map (·.bytes) =
          (phrases.map Phrase.said).filter w.input.settings.filter.passes := by
  intro sent
  obtain ⟨peer, hlink⟩ := hjoined.output
  have hwaiting := (List.append_eq_nil_iff.mp hjoined.quiet).2
  have hready : Ready o.encoder.mode (between phrases) := by
    rw [hjoined.encoder]
    exact ⟨rfl, runsVoice_none, hphrases, hmessages⟩
  obtain ⟨events, c', hall, hflows, hsteps, hready', hstream, hdrained⟩ :=
    hjoined.flows.sendAll settings hlink hready hparts.symm hcuts hsize hwaiting
  refine ⟨hall, ⟨_, beats_dispatch_queue _⟩, fun later hqueue hsink => ?_⟩
  obtain ⟨hlater, hstill⟩ := hflows.beats later
  obtain ⟨es, hsent, hheard⟩ := hlater.heard
  have hnone : (sent.2.2.beats later).bus.inFlight l = [] := by
    rw [Bus.inFlight, hstill, hdrained, Bus.queuedFor, hqueue]
    rfl
  rw [hnone, List.append_nil, List.nil_append] at hsent
  have hfilled : (sent.2.2.beats later).filled = false := by
    rcases hsink with rfl | hfilled
    · exact (hheard.callback ⟨[], rfl⟩).1
    · exact hfilled
  have hempty : (mode.sink w.input.settings).contents = [] := by
    cases mode <;> rfl
  rw [← hsent] at hsteps
  have hidle : Assembler.Hears
      { filter := w.input.settings.filter, sink := mode.sink w.input.settings }
      (between phrases) := rfl
  obtain ⟨-, hhanded⟩ := hidle.processAll hsteps
  rw [owed_nil hready' hstream, List.filter_nil, List.append_nil] at hhanded
  rw [hheard.delivered hfilled, hempty, List.nil_append, hhanded]
  rfl

/-- Two notes, of which the second one leaves out its status byte, with a clock tick between them, a
SysEx that is sent in three parts, and a program change; the input ignores timing and sensing. -/
theorem round_trip_notes_and_sysex :
    let i := (Input.ofSettings { filter := ⟨false, true, true⟩ } .callback ()).openVirtualPort
      (Bus.driver {}) {} "in"
    let o := (Output.ofSettings {}).openPort (Bus.driver {}) i.driver 0 "out"
    let w : Patch Unit :=
      { bus := o.driver, input := i.subject, handler := (), clock := fun _ => {},
        schedule := [[], [.dispatch], [], [.take, .dispatch]] }
    let sent := o.subject.sendAll (driver {}) w
      [[0x90, 0x3C, 0x40, 0xF8, 0x3E, 0x40, 0xF0, 0x01], [0x02], [0x03, 0xF7, 0xC5, 0x07]]
    (∀ r ∈ sent.1, r = .ok ()) ∧
      ∃ n, (sent.2.2.beats (List.replicate n .dispatch)).delivered.map (·.bytes) =
        [[0x90, 0x3C, 0x40], [0x90, 0x3E, 0x40], [0xF0, 0x01, 0x02, 0x03, 0xF7], [0xC5, 0x07]] := by
  intro i o w sent
  have hnumbered : Bus.Numbered ({} : Bus Unit) :=
    ⟨by decide, by simp, by simp, by simp, by simp⟩
  obtain ⟨l, hjoined⟩ : ∃ l, w.Joined .callback o.subject l :=
    joined_of_virtual_input hnumbered (by decide) rfl rfl rfl rfl _ _
  let phrases : List Phrase := [.message 0x90 [0x3C, 0x40], .message 0xF8 [],
    .group 0x90 [0x3E, 0x40], .sysex [0x01, 0x02, 0x03] true, .message 0xC5 [0x07]]
  let parts : List Bytes :=
    [[0x90, 0x3C, 0x40, 0xF8, 0x3E, 0x40, 0xF0, 0x01], [0x02], [0x03, 0xF7, 0xC5, 0x07]]
  have hsentence : Sentence none phrases [] :=
    ⟨⟨rfl, by decide +kernel⟩, ⟨rfl, nofun⟩, ⟨rfl, rfl, by decide +kernel⟩,
      ⟨by decide +kernel, nofun⟩, ⟨rfl, by decide +kernel⟩, trivial⟩
  have hmessages : ∀ p ∈ phrases, p.IsMessage := by decide +kernel
  have hcuts : ∀ k, Cuttable phrases (parts.take k).flatten.length
    | 0 => by decide
    | 1 => by decide
    | 2 => by decide
    | k + 3 => by
      rw [List.take_of_length_le (Nat.le_add_left 3 k)]
      decide
  have hsize : ∀ part ∈ parts, part.length ≤ Encoder.maxCapacity := by decide
  obtain ⟨hall, ⟨n, hqueue⟩, hdelivered⟩ := round_trip {} .callback o.subject w l phrases parts
    hjoined hsentence hmessages rfl hcuts hsize
  exact ⟨hall, n, (hdelivered _ hqueue (.inl rfl)).trans (by decide)⟩

end Patch

end PatchBay
