import PatchBay.Proofs.Capacity
import PatchBay.Proofs.OpenSysex
import PatchBay.Proofs.Retaking

/-!
# Real-time bytes inside a stream

A real-time byte may stand anywhere in a stream, and an encoder passes it on: between two events as
an event of its own, inside a SysEx as part of a piece. A stream without its real-time bytes gives
the events of the stream without theirs, and leaves the same mode behind.

The two streams cannot be followed call by call, since a real-time byte shifts where the pieces of a
SysEx behind it are cut. Read byte by byte they can, because an open SysEx may be cut anywhere; and
any event that is no piece of a SysEx is made of bytes next to one another and depends on these
alone.
-/

namespace PatchBay

/-- Some bytes without those that are real-time. -/
def quiet (bytes : Bytes) : Bytes := bytes.filter (!isRealtime ·)

section Quiet

variable {first b : UInt8} {rest bytes piece left : Bytes}

@[simp] theorem quiet_nil : quiet [] = [] := rfl

theorem quiet_cons_realtime (h : isRealtime first = true) : quiet (first :: rest) = quiet rest :=
  List.filter_cons_of_neg (by simp [h])

theorem quiet_cons (h : isRealtime first = false) :
    quiet (first :: rest) = first :: quiet rest :=
  List.filter_cons_of_pos (by simp [h])

theorem quiet_append (xs ys : Bytes) : quiet (xs ++ ys) = quiet xs ++ quiet ys :=
  List.filter_append ..

theorem quiet_eq_self (h : ∀ b ∈ bytes, isRealtime b = false) : quiet bytes = bytes :=
  List.filter_eq_self.mpr fun b hb => by simp [h b hb]

theorem not_isRealtime_of_data (h : isStatus b = false) : isRealtime b = false := by
  cases hr : isRealtime b with
  | false => rfl
  | true =>
    rw [isStatus_of_isRealtime hr] at h
    cases h

theorem quiet_data (h : ∀ b ∈ bytes, isStatus b = false) : quiet bytes = bytes :=
  quiet_eq_self fun b hb => not_isRealtime_of_data (h b hb)

end Quiet

namespace Encoder

variable {e : Encoder} {capacity : Nat} {mode after : Mode} {event : Event} {first : UInt8}
  {rest bytes : Bytes}

/-! ## The encoders there are -/

/-- The encoders that calls lead to from a fresh one. -/
inductive Reachable : Encoder → Prop where
  | fresh (capacity : Nat) : Reachable (ofCapacity capacity)
  | encode {e : Encoder} (h : Reachable e) (bytes : Bytes) : Reachable (e.encode bytes).2
  | reserve {e : Encoder} (h : Reachable e) (required : Nat) : Reachable (e.reserve required).2
  | reset {e : Encoder} (h : Reachable e) : Reachable e.reset

/-- A failed call forgets the running status or leaves it as it is. -/
theorem next_error_running {err : EncodeError}
    (h : next capacity mode bytes = (.error err, after)) :
    after.running = none ∨ after.running = mode.running := by
  cases next_failed h with
  | unchanged => exact .inr rfl
  | closed => exact .inr rfl
  | cleared => exact .inl rfl

/-- A running status is that of a channel message, whatever call came before. -/
theorem next_runsVoice (hr : RunsVoice mode.running) (capacity : Nat) (bytes : Bytes) :
    RunsVoice (next capacity mode bytes).2.running := by
  cases hnext : next capacity mode bytes with
  | mk result after =>
    cases result with
    | ok event =>
      obtain ⟨-, -, -, -, -, hafter⟩ := next_takes hr hnext
      exact hafter
    | error err =>
      rcases next_error_running hnext with hnone | hsame
      · dsimp only
        rw [hnone]
        exact runsVoice_none
      · dsimp only
        rwa [hsame]

theorem encode_mode (e : Encoder) (bytes : Bytes) :
    (e.encode bytes).2.mode = (next e.capacity e.mode bytes).2 := by
  unfold encode
  split <;> rename_i hnext <;> rw [hnext]

@[simp] theorem reserve_mode (e : Encoder) (required : Nat) :
    (e.reserve required).2.mode = e.mode := by
  unfold reserve
  split
  · rfl
  · split <;> rfl

theorem Reachable.runsVoice (h : e.Reachable) : RunsVoice e.mode.running := by
  induction h with
  | fresh capacity => exact runsVoice_none
  | encode _ bytes ih =>
    rw [encode_mode]
    exact next_runsVoice ih _ bytes
  | reserve _ required ih => rwa [reserve_mode]
  | reset _ ih => exact runsVoice_none

/-! ## Events that are no piece of a SysEx -/

/-- A message that leaves out its status byte is made of data bytes in front. -/
theorem next_data (hfirst : isStatus first = false) (hshut : mode.inSysex = false)
    (h : next capacity mode (first :: rest) = (.ok event, after)) :
    ∃ status data, mode.running = some status ∧
      takeData (channelDataCount status) (first :: rest) = .ok data ∧
      event = ⟨data.length, status :: data⟩ ∧ after = mode := by
  have hrt := not_isRealtime_of_data hfirst
  have hstart : first ≠ Status.sysexStart := by
    rintro rfl
    cases hfirst
  have hend : first ≠ Status.sysexEnd := by
    rintro rfl
    cases hfirst
  have hlow : first < Status.noteOff := by
    simp only [isStatus, Status.noteOff] at *
    grind
  have hopen : ¬ (first = Status.sysexStart ∨ (mode.inSysex = true ∧ ¬ isStatus first = true)) := by
    simp [hstart, hshut]
  rw [next, if_neg (by simp [hrt]), if_neg hopen, if_neg hend, if_pos hlow] at h
  split at h
  · cases h
  · rename_i status hrun
    split at h
    · cases h
    · rename_i data htake
      cases h
      exact ⟨status, data, hrun, htake, rfl, rfl⟩

/-- An event that neither is real-time nor starts a piece of a SysEx is made of bytes of which none
is real-time, and it is the same event whatever follows these. -/
theorem next_front (hr : RunsVoice mode.running) (hfirst : isRealtime first = false)
    (hopen : ¬ Opens mode.inSysex first)
    (h : next capacity mode (first :: rest) = (.ok event, after)) :
    ∃ piece left, first :: rest = piece ++ left ∧ event.consumed = piece.length ∧
      quiet piece = piece ∧ quiet event.bytes = event.bytes ∧
      ∀ left', next capacity mode (piece ++ left') = (.ok event, after) := by
  by_cases hdata : isStatus first = false
  · have hshut : mode.inSysex = false := by
      rw [Bool.eq_false_iff]
      intro hsx
      exact hopen (.inr ⟨hsx, hdata⟩)
    obtain ⟨status, data, hrun, htake, rfl, rfl⟩ := next_data hdata hshut h
    have hvoice := hr status hrun
    obtain ⟨hlen, -⟩ := takeData_length htake
    obtain ⟨left, hsplit, hall⟩ := eq_append_of_takeData htake
    have hcount : dataCount? status = some data.length := by
      rw [hlen]
      exact channelDataCount_eq hvoice
    refine ⟨data, left, hsplit, rfl, quiet_data hall, ?_, fun left' => ?_⟩
    · rw [quiet_cons (not_isRealtime_of_isVoice hvoice), quiet_data hall]
    · exact next_group hrun hshut hvoice hcount hall
  obtain ⟨consumed, taken⟩ := event
  obtain ⟨hpos, -⟩ := next_consumed h
  obtain ⟨piece, left, hsplit, hused, htakes, -⟩ := next_takes hr h
  cases htakes with
  | realtime hrt =>
    cases hsplit
    rw [hfirst] at hrt
    cases hrt
  | message running hcount hall hrt =>
    rename_i status data
    have hquiet : quiet (status :: data) = status :: data := by
      rw [quiet_cons hrt, quiet_data hall]
    refine ⟨status :: data, left, hsplit, hused, hquiet, hquiet, fun left' => ?_⟩
    -- a message is the same event in front of anything, so also in front of what is left here
    rw [hsplit, next_message hcount hall] at h
    rw [next_message hcount hall, h]
  | group hcount hall hrt hshut =>
    have hmem : first ∈ piece := by
      cases piece with
      | nil =>
        rw [hused] at hpos
        cases hpos
      | cons b data =>
        cases hsplit
        exact List.mem_cons_self ..
    exact absurd (hall first hmem) hdata
  | closing hsx =>
    cases hsplit
    refine ⟨[Status.sysexEnd], left, rfl, hused, rfl, rfl, fun left' => ?_⟩
    cases hused
    exact next_end hsx
  | piece running closed hopens hbody =>
    cases hsplit
    exact absurd hopens hopen
  | broken running hopens hbody hne hbreaks =>
    cases hsplit
    exact absurd hopens hopen

/-! ## The two streams -/

/-- A failure means that something is left. -/
theorem used_lt_of_failure {err : EncodeError} (h : (e.yield bytes).failure = some err) :
    (e.yield bytes).used < bytes.length := by
  induction hn : bytes.length using Nat.strongRecOn generalizing e bytes with
  | ind n ih =>
    subst hn
    by_cases hne : bytes = []
    · rw [hne, yield_nil] at h
      cases h
    have hlong := List.length_pos_iff.mpr hne
    cases henc : e.encode bytes with
    | mk result after =>
      cases result with
      | error err =>
        rw [yield_error hne henc]
        exact hlong
      | ok k =>
        obtain ⟨hpos, hle⟩ := encode_consumed henc
        rw [yield_ok henc] at h ⊢
        have hlen : (bytes.drop k).length = bytes.length - k := List.length_drop
        have hrest := ih _ (by omega) h rfl
        simp only [Yield.behind]
        omega

theorem failure_eq_none (h : (e.yield bytes).used = bytes.length) :
    (e.yield bytes).failure = none := by
  cases hfail : (e.yield bytes).failure with
  | none => rfl
  | some err =>
    have hlt := used_lt_of_failure hfail
    omega

/-- What a stream comes to that has the same bytes, but for those that are real-time. -/
structure Yield.Quietens (y y' : Yield) : Prop where
  failure_eq : y'.failure = none
  mode_eq : y'.mode = y.mode
  shards_eq : y'.shards.flatten = quiet y.shards.flatten

theorem Yield.Quietens.behind {y y' : Yield} (h : y.Quietens y') {front front' : List Bytes}
    (hfront : front'.flatten = quiet front.flatten) (n n' : Nat) :
    (y.behind n front).Quietens (y'.behind n' front') := by
  refine ⟨h.failure_eq, h.mode_eq, ?_⟩
  simp only [Yield.behind]
  rw [List.flatten_append, List.flatten_append, quiet_append, hfront, h.shards_eq]

theorem flatten_shards (event : Bytes) : (shards event).flatten = event := by
  simpa using flatten_flatMap_shards [event]

/-- Whatever a stream comes to that is used up, it comes to without its real-time bytes. -/
theorem yield_quiet (hr : RunsVoice e.mode.running) (h : (e.yield bytes).failure = none) :
    (e.yield bytes).Quietens (e.yield (quiet bytes)) := by
  induction hn : bytes.length using Nat.strongRecOn generalizing e bytes with
  | ind n ih =>
    subst hn
    cases bytes with
    | nil =>
      rw [quiet_nil, yield_nil]
      exact ⟨rfl, rfl, rfl⟩
    | cons first rest =>
      by_cases hrt : isRealtime first = true
      · -- the event is not there without the byte, and changes nothing for those behind it
        rw [yield_next (next_realtime hrt)] at h ⊢
        have hrest : (e.yield rest).Quietens (e.yield (quiet rest)) :=
          ih rest.length (Nat.lt_succ_self _) hr h rfl
        have hfront : ([] : List Bytes).flatten = quiet (shards [first]).flatten := by
          rw [flatten_shards, quiet_cons_realtime hrt]
          rfl
        have hboth := hrest.behind hfront 1 0
        rw [quiet_cons_realtime hrt]
        simpa [Yield.behind] using hboth
      have hrt : isRealtime first = false := Bool.eq_false_iff.mpr hrt
      rw [quiet_cons hrt]
      by_cases hopen : Opens e.mode.inSysex first
      · -- behind its first byte a piece may be cut, also in front of a real-time byte
        rw [(splits rest).yield_piece hopen] at h ⊢
        rw [(splits (quiet rest)).yield_piece hopen]
        have hvoice : RunsVoice
            (if first = Status.sysexStart then none else e.mode.running) := by
          split
          · exact runsVoice_none
          · exact hr
        have hrest := ih rest.length (Nat.lt_succ_self _)
          (e := { e with
            mode := ⟨if first = Status.sysexStart then none else e.mode.running, true⟩ })
          hvoice h rfl
        refine hrest.behind ?_ 1 1
        show [first] = quiet [first]
        rw [quiet_cons hrt, quiet_nil]
      cases hnext : next e.capacity e.mode (first :: rest) with
      | mk result mode =>
        cases result with
        | error err =>
          have henc : e.encode (first :: rest) = (.error err, { e with event := [], mode }) := by
            rw [encode, hnext]
          rw [yield_error (List.cons_ne_nil _ _) henc] at h
          cases h
        | ok event =>
          obtain ⟨hpos, -⟩ := next_consumed hnext
          have hvoice : RunsVoice mode.running := by
            have hafter := next_runsVoice hr e.capacity (first :: rest)
            rwa [hnext] at hafter
          obtain ⟨piece, left, hsplit, hused, hpiece, hevent, hsame⟩ :=
            next_front hr hrt hopen hnext
          rw [← quiet_cons hrt, hsplit, quiet_append, hpiece, yield_next (hsame _)]
          rw [hsplit, yield_next (hsame _)] at h
          rw [yield_next (hsame _)]
          rw [hused, List.drop_left] at h ⊢
          rw [List.drop_left]
          have hshort : left.length < (first :: rest).length := by
            rw [hsplit, List.length_append]
            omega
          have hrest := ih left.length hshort (e := { e with mode }) hvoice h rfl
          refine hrest.behind ?_ piece.length piece.length
          rw [flatten_shards, hevent]

/-- **Real-time bytes pass through.** Where calls use up a stream completely, from whatever encoder
calls can lead to, they use it up as well without its real-time bytes. They leave the same running
status, and a SysEx open or not as before, and their events say what the events of the whole stream
say without the real-time bytes. -/
theorem encodeAll_quiet (he : e.Reachable) (hall : consumed (e.encodeAll bytes).1 = bytes.length) :
    consumed (e.encodeAll (quiet bytes)).1 = (quiet bytes).length ∧
      (e.encodeAll (quiet bytes)).2.mode = (e.encodeAll bytes).2.mode ∧
      (events (e.encodeAll (quiet bytes)).1).flatten =
        quiet (events (e.encodeAll bytes).1).flatten := by
  have hyield := yield_quiet he.runsVoice (failure_eq_none hall)
  refine ⟨used_of_failure hyield.failure_eq, hyield.mode_eq, ?_⟩
  have hshards : ((events (e.encodeAll (quiet bytes)).1).flatMap shards).flatten =
      quiet ((events (e.encodeAll bytes).1).flatMap shards).flatten := hyield.shards_eq
  rwa [flatten_flatMap_shards, flatten_flatMap_shards] at hshards

/-- With room for three bytes, behind a SysEx that is open already: real-time bytes in front of its
end, inside a second SysEx, where they shift every cut, and around notes with running status. -/
theorem encodeAll_quiet_three :
    let e := ((ofCapacity 3).encode [0xF0, 0x01]).2
    let bytes : Bytes := [0xF8, 0x02, 0xFE, 0x03, 0xF8, 0xF7, 0xF0, 0xFA, 0x11, 0x12, 0xFC, 0x13,
      0xF7, 0xFF, 0x90, 0x3C, 0x40, 0xF8, 0x3E, 0x40, 0xFE]
    e.Reachable ∧ consumed (e.encodeAll bytes).1 = bytes.length ∧
      consumed (e.encodeAll (quiet bytes)).1 = 13 ∧
      (e.encodeAll (quiet bytes)).2.mode = ⟨some 0x90, false⟩ ∧
      (events (e.encodeAll (quiet bytes)).1).flatten =
        [0x02, 0x03, 0xF7, 0xF0, 0x11, 0x12, 0x13, 0xF7, 0x90, 0x3C, 0x40, 0x90, 0x3E, 0x40] ∧
      events (e.encodeAll (quiet bytes)).1 ≠ (events (e.encodeAll bytes).1).map quiet := by
  intro e bytes
  have he : e.Reachable := (Reachable.fresh 3).encode _
  have hall : consumed (e.encodeAll bytes).1 = bytes.length := by decide +kernel
  obtain ⟨hused, hmode, hflat⟩ := encodeAll_quiet he hall
  refine ⟨he, hall, hused.trans ?_, hmode.trans ?_, hflat.trans ?_, ?_⟩ <;> decide +kernel

end Encoder

end PatchBay
