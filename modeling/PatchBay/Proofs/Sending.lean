import PatchBay.Proofs.Cursor
import PatchBay.Proofs.Patch

/-!
# Sending a stream in parts

An output whose port is the source of a line sends a stream part by part, while the dispatcher and
the client on the other side do what they do. Every part that may be cut off goes out: the cursor
moves to its end, and its events are on their way.
-/

namespace PatchBay

namespace Encoder

variable {σ η : Type} {d : Driver σ η} {client : ClientId} {port : PortId} {offset events n : Nat}
  {bytes : Bytes} {e after : Encoder} {s s' : σ}

@[simp] theorem transmitAll_nil (e : Encoder) (s : σ) :
    transmitAll d client port offset events [] e s = ⟨.ok events, e, s⟩ := by
  rw [transmitAll]

/-- After an event that went out the loop goes on with the bytes behind it. -/
theorem transmitAll_ok (h : d.transmit s client port bytes e = (.ok n, after, s')) (hn : 0 < n)
    (hne : bytes ≠ []) :
    transmitAll d client port offset events bytes e s =
      transmitAll d client port (offset + n) (events + 1) (bytes.drop n) after s' := by
  obtain ⟨first, more, rfl⟩ := List.exists_cons_of_ne_nil hne
  obtain ⟨k, rfl⟩ : ∃ k, n = k + 1 := ⟨n - 1, by omega⟩
  rw [transmitAll, h]
  rfl

end Encoder

namespace Output

variable {σ η : Type}

/-- Sends parts one after the other. Gives what became of each. -/
def sendAll (d : Driver σ η) (o : Output η) (s : σ) :
    List Bytes → List (Except SendError Unit) × Output η × σ
  | [] => ([], o, s)
  | part :: parts =>
    let done := o.send d s part
    let more := sendAll d done.2.1 done.2.2 parts
    (done.1 :: more.1, more.2)

end Output

namespace Patch

open Cursor

variable {η : Type} [DecidableEq η] {w : Patch η} {f : Filter} {s : Sink} {l : Bus.Line}
  {sent : List Bytes} {c : Cursor} {e : Encoder} {x y : Bytes}

/-- A part that may be cut off goes out event by event. -/
theorem Flows.transmitAll (settings : Bus.Settings) (h : w.Flows f s l sent) (hr : c.Ready e.mode)
    (hs : c.stream = x ++ y) (hc : c.MayCut x.length) (offset count : Nat) :
    ∃ total after w' events c',
      Encoder.transmitAll (driver settings) l.sender l.source offset count x e w =
        ⟨.ok total, after, w'⟩ ∧
      w'.Flows f s l (sent ++ events) ∧ Steps c events c' ∧ c'.Ready after.mode ∧
      c'.stream = y ∧ ∀ n, c.MayCut (x.length + n) → c'.MayCut n := by
  induction hn : x.length using Nat.strongRecOn generalizing x w e c sent offset count with
  | ind m ih =>
    subst hn
    by_cases hx : x = []
    · subst hx
      refine ⟨count, e, w, [], c, Encoder.transmitAll_nil e w, ?_, .refl c, hr, hs, ?_⟩
      · rwa [List.append_nil]
      · intro n hn
        rwa [List.length_nil, Nat.zero_add] at hn
    -- the part starts with the piece of one event, and the rest of it is shorter
    obtain ⟨piece, more, event, mode, c1, rfl, hpiece, hnext, hstep, hr1⟩ :=
      hr.next hx hs hc e.capacity
    have henc : e.encode (piece ++ more) = (.ok piece.length, { e with event, mode }) := by
      rw [Encoder.encode, hnext]
    obtain ⟨w1, htransmit, hflows1⟩ := h.transmit settings henc
    have hready1 : c1.Ready ({ e with event, mode } : Encoder).mode := hr1
    have hs1 : c1.stream = more ++ y := by
      rw [hstep.stream_eq, List.append_assoc] at hs
      exact List.append_cancel_left hs
    have hcut : ∀ n, c.MayCut ((piece ++ more).length + n) → c1.MayCut (more.length + n) := by
      intro n hn
      rw [List.length_append, Nat.add_assoc] at hn
      exact hstep.mayCut hn
    have hpos := List.length_pos_iff.mpr hpiece
    obtain ⟨total, after, w', events, c', hloop, hflows, hsteps, hready, hstream, hcuts⟩ :=
      ih more.length (by rw [List.length_append]; omega) hflows1 hready1 hs1 (hcut 0 hc)
        (offset + piece.length) (count + 1) rfl
    refine ⟨total, after, w', event :: events, c', ?_, ?_, .cons hstep hsteps, hready, hstream,
      fun n hn => hcuts n (hcut n hn)⟩
    · rw [Encoder.transmitAll_ok htransmit hpos hx, List.drop_left, hloop]
    · rwa [List.append_assoc] at hflows

/-- A part that may be cut off is sent, and nothing of it stays in the outbox. -/
theorem Flows.send (settings : Bus.Settings) (h : w.Flows f s l sent) (hr : c.Ready e.mode)
    (hs : c.stream = x ++ y) (hc : c.MayCut x.length) (hsize : x.length ≤ Encoder.maxCapacity)
    (hw : w.bus.waitingFor l.sender l.target = []) :
    ∃ total after w' events c',
      e.send (driver settings) l.sender l.source x w = ⟨.ok total, after, w'⟩ ∧
      w'.Flows f s l (sent ++ events) ∧ Steps c events c' ∧ c'.Ready after.mode ∧
      c'.stream = y ∧ (∀ n, c.MayCut (x.length + n) → c'.MayCut n) ∧
      w'.bus.waitingFor l.sender l.target = [] := by
  by_cases hx : x = []
  · subst hx
    refine ⟨0, e, w, [], c, if_pos rfl, ?_, .refl c, hr, hs, ?_, hw⟩
    · rwa [List.append_nil]
    · intro n hn
      rwa [List.length_nil, Nat.zero_add] at hn
  obtain ⟨grown, e1, hreserve, hmode⟩ : ∃ grown e1, e.reserve x.length = (.ok grown, e1) ∧
      e1.mode = e.mode := by
    unfold Encoder.reserve
    split
    · exact ⟨_, _, rfl, rfl⟩
    · exact ⟨_, _, rfl, rfl⟩
  rw [← hmode] at hr
  obtain ⟨total, after, w1, events, c', hloop, hflows, hsteps, hready, hstream, hcuts⟩ :=
    h.transmitAll settings hr hs hc 0 0
  obtain ⟨w', hdrain, hflows', hwaiting⟩ := hflows.drain settings
  refine ⟨total, after, w', events, c', ?_, hflows', hsteps, hready, hstream, hcuts, hwaiting⟩
  rw [Encoder.send, if_neg hx, hreserve]
  simp only [hloop, hdrain]

/-- Parts are sent one after the other. -/
theorem Flows.sendAll (settings : Bus.Settings) {o : Output η} {peer : Option Address}
    (hlink : o.endpoint.link = .portOpen l.sender l.source peer) {parts : List Bytes}
    (h : w.Flows f s l sent) (hr : c.Ready o.encoder.mode) (hs : c.stream = parts.flatten)
    (hc : ∀ k, c.MayCut (parts.take k).flatten.length)
    (hsize : ∀ part ∈ parts, part.length ≤ Encoder.maxCapacity)
    (hw : w.bus.waitingFor l.sender l.target = []) :
    ∃ events c',
      (∀ r ∈ (o.sendAll (driver settings) w parts).1, r = .ok ()) ∧
      (o.sendAll (driver settings) w parts).2.2.Flows f s l (sent ++ events) ∧
      Steps c events c' ∧ c'.Ready (o.sendAll (driver settings) w parts).2.1.encoder.mode ∧
      c'.stream = [] ∧
      (o.sendAll (driver settings) w parts).2.2.bus.waitingFor l.sender l.target = [] := by
  induction parts generalizing w c o sent with
  | nil =>
    refine ⟨[], c, by simp [Output.sendAll], ?_, .refl c, hr, hs, hw⟩
    rw [List.append_nil]
    exact h
  | cons part parts ih =>
    rw [List.flatten_cons] at hs
    have hfirst : c.MayCut part.length := by
      have hone := hc 1
      rwa [List.take_succ_cons, List.take_zero, List.flatten_cons, List.flatten_nil,
        List.append_nil] at hone
    obtain ⟨total, after, w1, events, c1, hsend, hflows, hsteps, hready, hstream, hcuts, hw1⟩ :=
      h.send settings hr hs hfirst (hsize part (List.mem_cons_self ..)) hw
    have hdone : o.send (driver settings) w part = (.ok (), { o with encoder := after }, w1) := by
      rw [Output.send, hlink]
      simp only [hsend]
      rfl
    have hrest : ∀ k, c1.MayCut (parts.take k).flatten.length := by
      intro k
      have hk := hc (k + 1)
      rw [List.take_succ_cons, List.flatten_cons, List.length_append] at hk
      exact hcuts _ hk
    obtain ⟨more, c', hall, hflows', hsteps', hready', hstream', hw'⟩ :=
      ih (o := { o with encoder := after }) hlink hflows hready hstream hrest
        (fun p hp => hsize p (List.mem_cons_of_mem _ hp)) hw1
    rw [Output.sendAll, hdone]
    refine ⟨events ++ more, c', ?_, ?_, hsteps.trans hsteps', hready', hstream', hw'⟩
    · intro r hr
      rcases List.mem_cons.mp hr with rfl | hr
      · rfl
      · exact hall r hr
    · rwa [← List.append_assoc]

end Patch

end PatchBay
