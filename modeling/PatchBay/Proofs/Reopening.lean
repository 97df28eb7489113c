import PatchBay.Bus
import PatchBay.Proofs.FailedSends
import PatchBay.Proofs.Gating
import PatchBay.Proofs.Sending

/-!
# What a reopened output remembers

The encoder of an output outlives the output's ports, and nothing but sending changes it. An output
that is closed and opened again goes on with the running status and the open SysEx that the last
connection left. It is as a new one exactly if there are none.
-/

namespace PatchBay

/-! ## Encoders that differ in their last event -/

/-- Two encoders are alike if they take whatever comes in the same way. -/
structure Encoder.Alike (e e' : Encoder) : Prop where
  capacity_eq : e.capacity = e'.capacity
  mode_eq : e.mode = e'.mode

/-- Two sends came to the same, and left encoders that are alike. -/
structure Sent.Alike {σ : Type} (a b : Sent σ) : Prop where
  result_eq : a.result = b.result
  driver_eq : a.driver = b.driver
  encoder : a.encoder.Alike b.encoder

/-- A driver does not look at the event that an encoder holds before it encodes. -/
def Driver.Encodes {σ η : Type} (d : Driver σ η) : Prop :=
  ∀ s client port bytes e e', e.Alike e' →
    ∃ result after after' s', d.transmit s client port bytes e = (result, after, s') ∧
      d.transmit s client port bytes e' = (result, after', s') ∧ after.Alike after'

namespace Encoder

variable {σ η : Type} {d : Driver σ η} {client : ClientId} {port : PortId} {e e' : Encoder}

theorem Alike.encode (h : e.Alike e') (bytes : Bytes) : e.encode bytes = e'.encode bytes := by
  obtain ⟨capacity, hpos, event, mode⟩ := e
  obtain ⟨capacity', hpos', event', mode'⟩ := e'
  obtain ⟨rfl, rfl⟩ := h
  rfl

theorem Alike.reset (h : e.Alike e') : e.reset.Alike e'.reset := ⟨h.capacity_eq, rfl⟩

/-- An encoder that remembers nothing is like a new one. -/
theorem alike_new (hmode : e.mode = {}) : e.Alike (ofCapacity e.capacity) := by
  rw [← reset_eq_ofCapacity]
  exact ⟨rfl, hmode⟩

theorem Alike.reserve (h : e.Alike e') (required : Nat) :
    ∃ result after after', e.reserve required = (result, after) ∧
      e'.reserve required = (result, after') ∧ after.Alike after' := by
  unfold Encoder.reserve
  by_cases hfits : required ≤ e.capacity
  · have hfits' : required ≤ e'.capacity := h.capacity_eq ▸ hfits
    rw [dif_pos hfits, dif_pos hfits']
    exact ⟨_, _, _, rfl, rfl, h⟩
  have hfits' : ¬ required ≤ e'.capacity := h.capacity_eq ▸ hfits
  rw [dif_neg hfits, dif_neg hfits']
  by_cases hroom : required ≤ maxCapacity
  · rw [if_pos hroom, if_pos hroom]
    exact ⟨_, _, _, rfl, rfl, rfl, h.mode_eq⟩
  · rw [if_neg hroom, if_neg hroom]
    exact ⟨_, _, _, rfl, rfl, h.capacity_eq, h.mode_eq⟩

theorem Alike.transmitAll (hd : d.Encodes) (h : e.Alike e') (offset events : Nat) (bytes : Bytes)
    (s : σ) : (transmitAll d client port offset events bytes e s).Alike
      (transmitAll d client port offset events bytes e' s) := by
  induction hn : bytes.length using Nat.strongRecOn generalizing bytes e e' s offset events with
  | ind m ih =>
    subst hn
    cases bytes with
    | nil =>
      rw [transmitAll_nil, transmitAll_nil]
      exact ⟨rfl, rfl, h⟩
    | cons first more =>
      obtain ⟨result, after, after', s', hout, hout', halike⟩ :=
        hd s client port (first :: more) e e' h
      rw [Encoder.transmitAll, Encoder.transmitAll, hout, hout']
      cases result with
      | error err => exact ⟨rfl, rfl, halike.reset⟩
      | ok n =>
        cases n with
        | zero => exact ⟨rfl, rfl, halike.reset⟩
        | succ n =>
          refine ih _ ?_ halike _ _ _ s' rfl
          rw [List.length_drop, List.length_cons]
          omega

theorem Alike.send (hd : d.Encodes) (h : e.Alike e') (bytes : Bytes) (s : σ) :
    (e.send d client port bytes s).Alike (e'.send d client port bytes s) := by
  unfold Encoder.send
  by_cases hne : bytes = []
  · rw [if_pos hne, if_pos hne]
    exact ⟨rfl, rfl, h⟩
  rw [if_neg hne, if_neg hne]
  obtain ⟨result, after, after', hreserve, hreserve', hgrown⟩ := h.reserve bytes.length
  rw [hreserve, hreserve']
  cases result with
  | error err => exact ⟨rfl, rfl, hgrown⟩
  | ok grew =>
    have hloop : (Encoder.transmitAll d client port 0 0 bytes after s).Alike
        (Encoder.transmitAll d client port 0 0 bytes after' s) :=
      hgrown.transmitAll hd 0 0 bytes s
    cases hsent : Encoder.transmitAll d client port 0 0 bytes after s with
    | mk result encoder s1 =>
      cases hsent' : Encoder.transmitAll d client port 0 0 bytes after' s with
      | mk result' encoder' s1' =>
        rw [hsent, hsent'] at hloop
        obtain ⟨rfl, rfl, halike⟩ := hloop
        dsimp only
        rw [hsent, hsent']
        cases result with
        | error err => exact ⟨rfl, rfl, halike⟩
        | ok events =>
          dsimp only
          cases d.drain s1 client with
          | mk drained s2 => cases drained <;> exact ⟨rfl, rfl, halike⟩

end Encoder

theorem Bus.driver_encodes {η : Type} (settings : Bus.Settings) :
    (Bus.driver settings : Driver (Bus η) η).Encodes := by
  intro b client port bytes e e' h
  have hfor : e.encodeFor bytes = e'.encodeFor bytes := by
    rw [Encoder.encodeFor, Encoder.encodeFor, h.encode]
  simp only [Bus.driver, Bus.transmit]
  split
  · exact ⟨_, _, _, _, rfl, rfl, h⟩
  split
  · exact ⟨_, _, _, _, rfl, rfl, h⟩
  rw [hfor]
  split <;> exact ⟨_, _, _, _, rfl, rfl, rfl, rfl⟩

/-- An endpoint that has been opened has a port. -/
theorem Endpoint.port?_of_register {σ η : Type} {d : Driver σ η} {e : Endpoint η} {s : σ}
    {name : String} {kind : PortKind} {f : PortId → Endpoint η → σ → Outcome (Endpoint η) σ η Unit}
    (hf : ∀ port e s, (f port e s).subject.link.port? = e.link.port?)
    (h : ((e.register d s name kind).andThen f).result = .ok ()) :
    ∃ port, ((e.register d s name kind).andThen f).subject.link.port? = some port := by
  obtain ⟨-, hregistered, -⟩ := Endpoint.register_registers d e s name kind
  unfold Outcome.andThen at h ⊢
  split at h
  · cases h
  · rename_i port hresult
    exact ⟨port, (hf _ _ _).trans (hregistered port hresult)⟩

/-! ## Operations on an output -/

namespace Output

/-- Something that is done with an output. -/
inductive Operation where
  | openPort (index : Nat) (name : String)
  | openVirtualPort (name : String)
  | closePort
  | setPortName (name : String)
  | setClientName (name : String)
  | listPorts
  | send (bytes : Bytes)
  | shutdown
deriving Repr, DecidableEq

variable {σ η : Type} {d : Driver σ η} {o : Output η} {s : σ}

/-- The output and the driver's state after an operation. -/
def perform (d : Driver σ η) (o : Output η) (s : σ) : Operation → Output η × σ
  | .openPort index name =>
    ((o.openPort d s index name).subject, (o.openPort d s index name).driver)
  | .openVirtualPort name =>
    ((o.openVirtualPort d s name).subject, (o.openVirtualPort d s name).driver)
  | .closePort => o.closePort d s
  | .setPortName name => ((o.setPortName d s name).subject, (o.setPortName d s name).driver)
  | .setClientName name => ((o.setClientName d s name).subject, (o.setClientName d s name).driver)
  | .listPorts => (o, (o.endpoint.ports d s).2)
  | .send bytes => (o.send d s bytes).2
  | .shutdown => o.shutdown d s

/-- The output and the driver's state after some operations in a row. -/
def performAll (d : Driver σ η) (o : Output η) (s : σ) (ops : List Operation) : Output η × σ :=
  ops.foldl (fun w op => w.1.perform d w.2 op) (o, s)

/-- Only sending changes the encoder. -/
theorem perform_encoder {op : Operation} (h : ∀ bytes, op ≠ .send bytes) :
    (o.perform d s op).1.encoder = o.encoder := by
  cases op with
  | send bytes => exact absurd rfl (h bytes)
  | _ => rfl

/-- Outputs that differ in the last event of their encoders report the same of all sends. -/
theorem sendAll_alike {e e' : Encoder} (hd : d.Encodes) (h : e.Alike e') (parts : List Bytes) :
    (({ o with encoder := e }).sendAll d s parts).1 =
        (({ o with encoder := e' }).sendAll d s parts).1 ∧
      (({ o with encoder := e }).sendAll d s parts).2.2 =
        (({ o with encoder := e' }).sendAll d s parts).2.2 := by
  induction parts generalizing e e' s with
  | nil => exact ⟨rfl, rfl⟩
  | cons part parts ih =>
    obtain ⟨result, after, after', s', hsend, hsend', halike⟩ :
        ∃ result after after' s',
          ({ o with encoder := e }).send d s part = (result, { o with encoder := after }, s') ∧
          ({ o with encoder := e' }).send d s part = (result, { o with encoder := after' }, s') ∧
          after.Alike after' := by
      unfold Output.send
      dsimp only
      split
      · rename_i client port _ _
        obtain ⟨hresult, hdriver, halike⟩ : (e.send d client port part s).Alike
            (e'.send d client port part s) := h.send hd part s
        rw [hresult, hdriver]
        exact ⟨_, _, _, _, rfl, rfl, halike⟩
      · exact ⟨_, _, _, _, rfl, rfl, h⟩
    obtain ⟨hresults, hdrivers⟩ := ih halike (s := s')
    rw [sendAll, sendAll, hsend, hsend']
    exact ⟨congrArg (result :: ·) hresults, hdrivers⟩

/-! ## Closing and opening again -/

/-- **A reopened output goes on where it was.** Whatever was done with an output before it is closed
and opened again, over any driver, it has a port again and the encoder that it had. The encoder
takes whatever comes as a new one does exactly if no running status and no open SysEx are left from
before; then all later sends report the same as on a new output, over any driver that does not look
at events that went out before. -/
theorem reopened_as_left (d : Driver σ η) (o : Output η) (s : σ) (history : List Operation)
    (index : Nat) (name : String) :
    let left := o.performAll d s history
    let closed := left.1.closePort d left.2
    ∀ opened ∈ [closed.1.openPort d closed.2 index name, closed.1.openVirtualPort d closed.2 name],
      opened.result = .ok () →
        (∃ port, opened.subject.endpoint.link.port? = some port) ∧
        opened.subject.encoder = left.1.encoder ∧
        ((∀ bytes, opened.subject.encoder.encode bytes =
            (Encoder.ofCapacity opened.subject.encoder.capacity).encode bytes) ↔
          left.1.encoder.mode = {}) ∧
        (left.1.encoder.mode = {} → d.Encodes → ∀ parts,
          let fresh : Output η :=
            { opened.subject with encoder := .ofCapacity opened.subject.encoder.capacity }
          (opened.subject.sendAll d opened.driver parts).1 =
              (fresh.sendAll d opened.driver parts).1 ∧
            (opened.subject.sendAll d opened.driver parts).2.2 =
              (fresh.sendAll d opened.driver parts).2.2) := by
  intro left closed opened hmem hopen
  obtain ⟨hport, hkept⟩ : (∃ port, opened.subject.endpoint.link.port? = some port) ∧
      opened.subject.encoder = left.1.encoder := by
    rcases List.mem_cons.mp hmem with rfl | hmem
    · have hport := Endpoint.port?_of_register
        (fun _ e s => Endpoint.connectPort_port? d e s index) hopen
      exact ⟨hport, rfl⟩
    · obtain rfl := List.mem_singleton.mp hmem
      exact ⟨Endpoint.port?_of_register (fun _ _ _ => rfl) hopen, rfl⟩
  refine ⟨hport, hkept, ?_, fun hmode hd parts => ?_⟩
  · rw [Encoder.encode_eq_fresh_iff, hkept]
  · exact sendAll_alike hd (Encoder.alike_new (hkept ▸ hmode)) parts

/-- An output on a bus is closed in the middle of a SysEx. Opened again, it takes data bytes. -/
theorem reopened_inside_sysex :
    let d : Driver (Bus Unit) Unit := Bus.driver {}
    let o : Output Unit := Output.ofSettings {}
    let history : List Operation := [.openVirtualPort "out", .send [0xF0, 0x01]]
    let left := o.performAll d {} history
    let closed := left.1.closePort d left.2
    let opened := closed.1.openVirtualPort d closed.2 "out"
    opened.result = .ok () ∧ opened.subject.encoder.mode = ⟨none, true⟩ ∧
      ∃ bytes, opened.subject.encoder.encode bytes ≠
        (Encoder.ofCapacity opened.subject.encoder.capacity).encode bytes := by
  intro d o history left closed opened
  have hopen : opened.result = .ok () := by decide +kernel
  have hmode : left.1.encoder.mode = ⟨none, true⟩ := by decide +kernel
  obtain ⟨-, hkept, hiff, -⟩ := reopened_as_left d o {} history 0 "out" opened
    (List.mem_cons_of_mem _ (List.mem_singleton_self _)) hopen
  refine ⟨hopen, hkept ▸ hmode, ?_⟩
  by_contra hnone
  have hclean : left.1.encoder.mode = {} :=
    hiff.mp fun bytes => of_not_not fun hne => hnone ⟨bytes, hne⟩
  rw [hmode] at hclean
  cases hclean

/-- The running status of a note outlives the port: after the output was closed and opened again,
data bytes alone are sent as a note, which a new output refuses. -/
theorem reopened_keeps_running_status :
    let d : Driver (Bus Unit) Unit := Bus.driver {}
    let first := (Output.ofSettings {}).openVirtualPort d {} "out"
    let sent := first.subject.send d first.driver [0x90, 0x3C, 0x40]
    let closed := sent.2.1.closePort d sent.2.2
    let again := closed.1.openVirtualPort d closed.2 "out"
    let fresh : Output Unit :=
      { again.subject with encoder := .ofCapacity again.subject.encoder.capacity }
    first.result = .ok () ∧ sent.1 = .ok () ∧ again.result = .ok () ∧
      (again.subject.send d again.driver [0x3E, 0x40]).1 = .ok () ∧
      (fresh.send d again.driver [0x3E, 0x40]).1 =
        .error (.encode 0 (.malformed "data byte 0x3E without a status byte")) := by
  intro d first sent closed again fresh
  decide +kernel

end Output

end PatchBay
