import PatchBay.Proofs.Encoding

/-!
# Encoding again after a failure

A call that finds no event may change the mode before it fails: a status byte ends an open SysEx,
and that of a system message ends running status too, whether or not the data bytes are there. The
same bytes, with more behind them, begin with the same status byte, and it makes those changes
again. So a client may hand over what it has, and on a failure the same bytes once more together
with those that came in meanwhile.
-/

namespace PatchBay

namespace Encoder

variable {e : Encoder} {capacity : Nat} {mode after : Mode} {first : UInt8}
  {rest bytes more : Bytes} {err : EncodeError}

/-- A byte that begins a message: a status byte that neither is real-time nor opens or closes a
SysEx. -/
structure BeginsMessage (first : UInt8) : Prop where
  status : isStatus first = true
  not_realtime : isRealtime first = false
  not_start : first ≠ Status.sysexStart
  not_end : first ≠ Status.sysexEnd

/-- Only a byte that begins a message gets as far as its data bytes. -/
theorem next_begins (h : BeginsMessage first) :
    next capacity mode (first :: rest) =
      if first < Status.sysexStart then
        match takeData (channelDataCount first) rest with
        | .error e => (.error e, { mode with inSysex := false })
        | .ok data => (.ok ⟨data.length + 1, first :: data⟩, { running := some first })
      else
        match systemDataCount? first with
        | none => (.error (.undefinedStatus first), { mode with inSysex := false })
        | some count =>
          match takeData count rest with
          | .error e => (.error e, {})
          | .ok data => (.ok ⟨data.length + 1, first :: data⟩, {}) := by
  have hpiece :
      ¬ (first = Status.sysexStart ∨ (mode.inSysex = true ∧ ¬ isStatus first = true)) := by
    rintro (hstart | ⟨-, hdata⟩)
    · exact h.not_start hstart
    · exact hdata h.status
  have hlow : ¬ first < Status.noteOff := by
    have hstatus := h.status
    simp only [isStatus, Status.noteOff] at *
    grind
  rw [next, if_neg (by simp [h.not_realtime]), if_neg hpiece, if_neg h.not_end]
  exact if_neg hlow

/-! ## What a failure changes -/

/-- What a failed call may have done to the mode. -/
inductive Failed (mode : Mode) : Bytes → Mode → Prop where
  /-- Nothing. -/
  | unchanged (bytes : Bytes) : Failed mode bytes mode
  /-- It ended an open SysEx. -/
  | closed {first : UInt8} (rest : Bytes) : BeginsMessage first →
    Failed mode (first :: rest) { mode with inSysex := false }
  /-- It ended running status too, since a system message begins here. -/
  | cleared {first : UInt8} (rest : Bytes) : BeginsMessage first → ¬ first < Status.sysexStart →
    (systemDataCount? first).isSome = true → Failed mode (first :: rest) {}

theorem next_failed (h : next capacity mode bytes = (.error err, after)) :
    Failed mode bytes after := by
  cases bytes with
  | nil =>
    cases h
    exact .unchanged []
  | cons first rest =>
    by_cases hbegins : BeginsMessage first
    · rw [next_begins hbegins] at h
      split at h
      · split at h
        · cases h
          exact .closed rest hbegins
        · cases h
      · rename_i hsystem
        split at h
        · cases h
          exact .closed rest hbegins
        · rename_i count hcount
          split at h
          · cases h
            refine .cleared rest hbegins hsystem ?_
            rw [hcount]
            rfl
          · cases h
    · -- any other byte fails, if at all, before the mode is touched
      have hsame : after = mode := by
        rw [next] at h
        split at h
        · cases h
        rename_i hrt
        split at h
        · cases h
        rename_i hopen
        split at h
        · split at h <;> cases h
          rfl
        rename_i hend
        split at h
        · split at h
          · cases h
            rfl
          · split at h <;> cases h
            rfl
        rename_i hlow
        refine absurd ⟨?_, by simpa using hrt, fun hs => hopen (.inl hs), hend⟩ hbegins
        simp only [isStatus, Status.noteOff] at *
        grind
      rw [hsame]
      exact .unchanged _

/-! ## The same bytes again -/

/-- What a failed call has done to the mode, the next call on the same bytes does itself. -/
theorem Failed.next_eq (h : Failed mode bytes after) (capacity : Nat) (more : Bytes) :
    next capacity after (bytes ++ more) = next capacity mode (bytes ++ more) := by
  cases h with
  | unchanged => rfl
  | closed rest hbegins =>
    rw [List.cons_append, next_begins hbegins, next_begins hbegins]
  | cleared rest hbegins hsystem hcount =>
    obtain ⟨count, hcount⟩ := Option.isSome_iff_exists.mp hcount
    rw [List.cons_append, next_begins hbegins, next_begins hbegins, if_neg hsystem, if_neg hsystem,
      hcount]

/-- **A failed call is invisible to a retry.** Whatever the encoder was like, a call that fails
leaves no event and the capacity that there was. If the same bytes are then handed over again, with
any bytes behind them, the call comes to what it would have come to without the failed one: to the
same number of bytes used up or the same error, and to the same encoder with the same event and the
same mode. -/
theorem encode_again (h : (e.encode bytes).1 = .error err) :
    (e.encode bytes).2.event = [] ∧ (e.encode bytes).2.capacity = e.capacity ∧
      ∀ more, (e.encode bytes).2.encode (bytes ++ more) = e.encode (bytes ++ more) := by
  cases hnext : next e.capacity e.mode bytes with
  | mk result after =>
    cases result with
    | ok event =>
      rw [encode, hnext] at h
      cases h
    | error err' =>
      have hfailed : e.encode bytes = (.error err', { e with event := [], mode := after }) := by
        rw [encode, hnext]
      rw [hfailed]
      refine ⟨rfl, rfl, fun more => ?_⟩
      have hagain := (next_failed hnext).next_eq e.capacity more
      rw [encode, encode]
      dsimp only
      rw [hagain]

/-- A song position inside a SysEx, whose second data byte is late. The first attempt ends the
SysEx, and the second one does not notice. -/
theorem encode_again_song_position :
    let e := ((ofCapacity 4).encode [0xF0, 0x01]).2
    e.mode = ⟨none, true⟩ ∧ (e.encode [0xF2, 0x01]).1 = .error .incomplete ∧
      (e.encode [0xF2, 0x01]).2.mode = {} ∧
      (e.encode [0xF2, 0x01]).2.encode ([0xF2, 0x01] ++ [0x02]) =
        e.encode ([0xF2, 0x01] ++ [0x02]) ∧
      (e.encode [0xF2, 0x01, 0x02]).2.event = [0xF2, 0x01, 0x02] := by
  intro e
  have hfails : (e.encode [0xF2, 0x01]).1 = .error .incomplete := rfl
  obtain ⟨-, -, hagain⟩ := encode_again hfails
  exact ⟨rfl, hfails, rfl, hagain [0x02], rfl⟩

end Encoder

end PatchBay
