import Mathlib.Control.Monad.Basic
import PatchBay.Driver.Scripted
import PatchBay.Output

/-!
# What a failed send leaves behind

A send may fail at any of its events, after those before it went out, or behind the last one when
the driver drains its queue. The loop over the events resets the encoder on every way out that is a
failure. A failed drain comes after the loop and leaves the encoder as the last event did, with its
running status and its open SysEx.
-/

namespace PatchBay

namespace Encoder

variable {σ η : Type} {d : Driver σ η} {client : ClientId} {port : PortId} {bytes : Bytes}
  {e : Encoder} {s : σ} {err : SendError}

/-- A reset encoder is a new one. -/
theorem reset_eq_ofCapacity (e : Encoder) : e.reset = ofCapacity e.capacity := by
  have hmax : max e.capacity 1 = e.capacity := Nat.max_eq_left e.capacity_pos
  simp [reset, ofCapacity, hmax]

/-- Every failure of the loop resets the encoder, however many events went out before it. -/
theorem transmitAll_error {offset events : Nat}
    (h : (transmitAll d client port offset events bytes e s).result = .error err) :
    (transmitAll d client port offset events bytes e s).encoder =
        ofCapacity (transmitAll d client port offset events bytes e s).encoder.capacity ∧
      ∀ source, err ≠ .drain source := by
  fun_induction transmitAll d client port offset events bytes e s with
  | case1 => cases h
  | case2 =>
    -- the driver could not encode or transmit the event
    cases h
    refine ⟨reset_eq_ofCapacity _, fun source => ?_⟩
    unfold SendError.ofTransmit
    split <;> simp
  | case3 =>
    cases h
    exact ⟨reset_eq_ofCapacity _, by simp⟩
  | case4 _ _ _ _ _ _ _ _ _ _ ih => exact ih h

/-- Two data bytes tell an encoder that remembers something from a new one: they go on with an open
SysEx or with running status, and a new encoder refuses them. The last event tells nothing. -/
theorem encode_eq_fresh_iff (e : Encoder) :
    (∀ bytes, e.encode bytes = (ofCapacity e.capacity).encode bytes) ↔ e.mode = {} := by
  constructor
  · intro h
    have hdata := congrArg Prod.fst (h [0, 0])
    have hfresh : ((ofCapacity e.capacity).encode [0, 0]).1 = .error (.strayData 0) := rfl
    rw [hfresh, encode] at hdata
    obtain ⟨capacity, hcapacity, event, running, inSysex⟩ := e
    cases inSysex with
    | true => cases hdata
    | false =>
      cases running with
      | none => rfl
      | some status =>
        have htake : takeData (channelDataCount status) [0, 0] =
            .ok (List.replicate (channelDataCount status) 0) := by
          simp only [channelDataCount]
          split <;> rfl
        have hnext : ∃ consumed, next capacity ⟨some status, false⟩ [0, 0] =
            (.ok ⟨consumed, status :: List.replicate (channelDataCount status) 0⟩,
              ⟨some status, false⟩) := by
          have hquiet : ¬ ((0 : UInt8) = Status.sysexStart ∨ false ∧ ¬ isStatus 0) := by decide
          rw [next, if_neg (by decide), if_neg hquiet, if_neg (by decide), if_pos (by decide)]
          dsimp only
          rw [htake]
          exact ⟨_, rfl⟩
        obtain ⟨consumed, hnext⟩ := hnext
        rw [hnext] at hdata
        cases hdata
  · intro hmode bytes
    rw [← reset_eq_ofCapacity]
    obtain ⟨capacity, hcapacity, event, mode⟩ := e
    cases hmode
    rfl

/-- A send that has room fails in the loop or when the queue is drained, and the encoder is then as
the loop left it. -/
theorem send_error_cases (h : (e.send d client port bytes s).result = .error err)
    (hsized : ∀ required, err ≠ .resize required) :
    ∃ result s', transmitAll d client port 0 0 bytes (e.reserve bytes.length).2 s =
        ⟨result, (e.send d client port bytes s).encoder, s'⟩ ∧
      (result = .error err ∨ ∃ events source, result = .ok events ∧ err = .drain source) := by
  unfold send at h ⊢
  by_cases hne : bytes = []
  · rw [if_pos hne] at h
    cases h
  rw [if_neg hne] at h ⊢
  cases hreserve : e.reserve bytes.length with
  | mk reserved grown =>
    rw [hreserve] at h
    cases reserved with
    | error e =>
      cases h
      exact absurd rfl (hsized _)
    | ok _ =>
      cases hloop : transmitAll d client port 0 0 bytes grown s with
      | mk result encoder s' =>
        simp only [hloop] at h ⊢
        cases result with
        | error e => exact ⟨_, _, rfl, .inl h⟩
        | ok events =>
          cases hdrain : d.drain s' client with
          | mk drained s'' =>
            simp only [hdrain] at h ⊢
            cases drained with
            | error source =>
              cases h
              exact ⟨_, _, rfl, .inr ⟨events, source, rfl, rfl⟩⟩
            | ok _ => cases h

/-- **What a failed send leaves behind.** Once the buffer is large enough, a send that fails before
the queue is drained leaves a new encoder of the same capacity, for any driver, after any number of
events. A send that fails to drain leaves the encoder as the last event did. In either case the
encoder takes whatever comes as a new one does exactly if it has no running status and no open
SysEx. -/
theorem send_error (h : (e.send d client port bytes s).result = .error err)
    (hsized : ∀ required, err ≠ .resize required) :
    let after := (e.send d client port bytes s).encoder
    ((∀ source, err ≠ .drain source) → after = ofCapacity after.capacity) ∧
      (∀ source, err = .drain source → ∃ events s',
        transmitAll d client port 0 0 bytes (e.reserve bytes.length).2 s =
          ⟨.ok events, after, s'⟩) ∧
      ((∀ later, after.encode later = (ofCapacity after.capacity).encode later) ↔
        after.mode = {}) := by
  intro after
  obtain ⟨result, s', hloop, hcases⟩ := send_error_cases h hsized
  refine ⟨fun hdrain => ?_, ?_, encode_eq_fresh_iff after⟩
  · rcases hcases with rfl | ⟨-, source, -, rfl⟩
    · obtain ⟨hclean, -⟩ := transmitAll_error (congrArg Sent.result hloop)
      rwa [hloop] at hclean
    · exact absurd rfl (hdrain source)
  · rintro source rfl
    rcases hcases with rfl | ⟨events, -, rfl, -⟩
    · obtain ⟨-, hother⟩ := transmitAll_error (congrArg Sent.result hloop)
      exact absurd rfl (hother source)
    · exact ⟨events, s', hloop⟩

/-- The second event of a send is refused by the driver: the note before it went out, and the
encoder has forgotten its status byte. -/
theorem send_error_second_event :
    let d : Driver (Scripted Unit) Unit := Scripted.driver .loopback none
    let s : Scripted Unit :=
      { script := [(.transmit, [.usual, .encodeThenFail (.backend "queue full")])] }
    let sent := (ofCapacity 8).send d ⟨1⟩ ⟨1⟩ [0x90, 0x3C, 0x40, 0xF0, 0x01] s
    sent.result = .error (.transmit 3 (.backend "queue full")) ∧
      sent.encoder = ofCapacity 8 := by
  intro d s sent
  have hresult : sent.result = .error (.transmit 3 (.backend "queue full")) := by
    decide +kernel
  obtain ⟨hclean, -, -⟩ := send_error hresult (by simp)
  have hcapacity : sent.encoder.capacity = 8 := by
    decide +kernel
  rw [hcapacity] at hclean
  exact ⟨hresult, hclean (by simp)⟩

/-- A drain that fails leaves the running status of the note in force: the next send gets through
with data bytes that a new encoder refuses. -/
theorem drain_error_keeps_running_status :
    let d : Driver (Scripted Unit) Unit := Scripted.driver .loopback none
    let s : Scripted Unit := { script := [(.drain, [.fail (.backend "gone")])] }
    let first := (ofCapacity 32).send d ⟨1⟩ ⟨1⟩ [0x90, 0x3C, 0x40] s
    let second := first.encoder.send d ⟨1⟩ ⟨1⟩ [0x3E, 0x40] first.driver
    let fresh := (ofCapacity first.encoder.capacity).send d ⟨1⟩ ⟨1⟩ [0x3E, 0x40] first.driver
    first.result = .error (.drain (.backend "gone")) ∧
      first.encoder.mode = ⟨some 0x90, false⟩ ∧
      second.result = .ok 1 ∧
      fresh.result =
        .error (.encode 0 (.malformed "data byte 0x3E without a status byte")) := by
  intro d s first second fresh
  decide +kernel

end Encoder

end PatchBay
