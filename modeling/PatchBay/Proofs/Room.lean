import PatchBay.Proofs.Realtime
import PatchBay.Proofs.Tiling
import PatchBay.Proofs.Watching

/-!
# Room for every event

A send makes the encoder large enough for all its bytes before it takes the first event from them.
An event is as long as the bytes that it uses up, but for a message that leaves out its status byte:
that one is longer, and may be longer than all the bytes of its send. It fits nevertheless, since
the message that left the status byte behind was as long, and the capacity never shrinks. Growing
does not forget the running status, so it is carried through every send as an invariant of the
encoder.

A driver may do with the bytes that it is handed what it likes: encode all of them or some of them,
more than once or not at all, and report what it likes. All that is asked of it is that it changes
the encoder in no other way.
-/

namespace PatchBay

namespace Encoder

variable {e : Encoder} {capacity room : Nat} {mode after : Mode} {event : Event}
  {bytes rest body piece left x y : Bytes}

/-! ## Encoders with room for what they remember -/

/-- There is room for a message with the running status. -/
structure HasRoom (e : Encoder) : Prop where
  voice : RunsVoice e.mode.running
  room : ∀ status, e.mode.running = some status → channelDataCount status + 1 ≤ e.capacity

/-- Events from no more than `room` bytes fit into it if those with the running status do, and then
those with the new running status do too. -/
theorem next_room {result : Except EncodeError Event}
    (hmode : ∀ status, mode.running = some status → channelDataCount status + 1 ≤ room)
    (hlen : bytes.length ≤ room) (h : next capacity mode bytes = (result, after)) :
    (∀ event, result = .ok event → event.bytes.length ≤ room) ∧
      ∀ status, after.running = some status → channelDataCount status + 1 ≤ room := by
  cases bytes with
  | nil =>
    cases h
    exact ⟨by rintro event ⟨⟩, hmode⟩
  | cons first rest =>
    rw [List.length_cons] at hlen
    rw [next] at h
    split at h
    · cases h
      refine ⟨?_, hmode⟩
      rintro event ⟨⟩
      rw [List.length_singleton]
      omega
    split at h
    · cases h
      refine ⟨?_, fun status hs => ?_⟩
      · rintro event ⟨⟩
        have hrun := sysexRun_le (capacity - 1) rest
        rw [List.length_cons, List.length_take]
        omega
      · dsimp only at hs
        split at hs
        · cases hs
        · exact hmode status hs
    split at h
    · split at h
      · cases h
        refine ⟨?_, hmode⟩
        rintro event ⟨⟩
        rw [List.length_singleton]
        omega
      · cases h
        exact ⟨by rintro event ⟨⟩, hmode⟩
    split at h
    · split at h
      · cases h
        exact ⟨by rintro event ⟨⟩, hmode⟩
      rename_i status hrun
      split at h
      · cases h
        exact ⟨by rintro event ⟨⟩, hmode⟩
      · rename_i data htake
        cases h
        refine ⟨?_, hmode⟩
        rintro event ⟨⟩
        have hdata := (takeData_length htake).1
        have hroom := hmode status hrun
        rw [List.length_cons]
        omega
    -- the status byte that a message leaves behind came with its data bytes
    split at h
    · split at h
      · cases h
        exact ⟨by rintro event ⟨⟩, hmode⟩
      · rename_i data htake
        cases h
        obtain ⟨hdata, hcount⟩ := takeData_length htake
        refine ⟨?_, ?_⟩
        · rintro event ⟨⟩
          rw [List.length_cons]
          omega
        · rintro status ⟨⟩
          omega
    · split at h
      · cases h
        exact ⟨by rintro event ⟨⟩, hmode⟩
      split at h
      · cases h
        exact ⟨by rintro event ⟨⟩, by rintro status ⟨⟩⟩
      · rename_i data htake
        cases h
        obtain ⟨hdata, hcount⟩ := takeData_length htake
        refine ⟨?_, by rintro status ⟨⟩⟩
        rintro event ⟨⟩
        rw [List.length_cons]
        omega

theorem hasRoom_ofCapacity (capacity : Nat) : (ofCapacity capacity).HasRoom := ⟨nofun, nofun⟩

theorem hasRoom_reset (e : Encoder) : e.reset.HasRoom := ⟨nofun, nofun⟩

theorem reserve_capacity_le (e : Encoder) (required : Nat) :
    e.capacity ≤ (e.reserve required).2.capacity := by
  unfold reserve
  split
  · exact Nat.le_refl _
  · split
    · dsimp only
      omega
    · exact Nat.le_refl _

theorem reserve_ok {required : Nat} {grew : Bool} {grown : Encoder}
    (h : e.reserve required = (.ok grew, grown)) : required ≤ grown.capacity := by
  unfold reserve at h
  split at h
  · cases h
    assumption
  · split at h
    · cases h
      exact Nat.le_refl _
    · cases h

theorem HasRoom.reserve (h : e.HasRoom) (required : Nat) : (e.reserve required).2.HasRoom := by
  refine ⟨?_, fun status hs => ?_⟩
  · rw [reserve_mode]
    exact h.voice
  · rw [reserve_mode] at hs
    exact Nat.le_trans (h.room status hs) (reserve_capacity_le e required)

theorem HasRoom.encode (h : e.HasRoom) (hlen : bytes.length ≤ e.capacity) :
    (e.encode bytes).2.HasRoom := by
  refine ⟨?_, ?_⟩
  · rw [encode_mode]
    exact next_runsVoice h.voice _ _
  · rw [encode_mode, encode_capacity]
    exact (next_room h.room hlen rfl).2

/-- An event fits the capacity. -/
theorem HasRoom.event_le (h : e.HasRoom) (hlen : bytes.length ≤ e.capacity) {n : Nat}
    {after : Encoder} (henc : e.encode bytes = (.ok n, after)) :
    after.event.length ≤ e.capacity := by
  cases hnext : next e.capacity e.mode bytes with
  | mk result mode =>
    rw [Encoder.encode, hnext] at henc
    cases result with
    | error err => cases henc
    | ok event =>
      cases henc
      exact (next_room h.room hlen hnext).1 event rfl

/-! ## A whole SysEx -/

theorem Takes.sysexStart_not_mem_tail {taken : Bytes} (h : Takes mode rest piece taken after) :
    Status.sysexStart ∉ piece.tail := by
  have hdata : ∀ {data : Bytes}, (∀ b ∈ data, isStatus b = false) → Status.sysexStart ∉ data :=
    fun hall hmem => absurd (hall _ hmem) (by decide)
  have hbody : ∀ {body : Bytes}, (∀ b ∈ body, isBody b = true) → Status.sysexStart ∉ body :=
    fun hall hmem => absurd (hall _ hmem) (by decide)
  cases h with
  | realtime hrt => exact List.not_mem_nil
  | message running hcount hall hrt => exact hdata hall
  | group hcount hall hrt hshut => exact fun hmem => hdata hall (List.mem_of_mem_tail hmem)
  | closing hsx => exact List.not_mem_nil
  | piece running closed hopens hall =>
    intro hmem
    rcases List.mem_append.mp hmem with hmem | hmem
    · exact hbody hall hmem
    · cases closed with
      | true => exact absurd (List.mem_singleton.mp hmem) (by decide)
      | false => cases hmem
  | broken running hopens hall hne hbreaks => exact hbody hall

/-- No event reaches over the start of a SysEx. -/
theorem consumed_le_of_start (hr : RunsVoice mode.running) (hx : x ≠ [])
    (h : next capacity mode (x ++ Status.sysexStart :: y) = (.ok event, after)) :
    event.consumed ≤ x.length := by
  obtain ⟨piece, left, hsplit, hused, htakes, -⟩ := next_takes hr h
  by_contra hlong
  have hlt : x.length < piece.length := by omega
  have hstart : piece[x.length]? = some Status.sysexStart := by
    rw [← List.getElem?_append_left hlt, ← hsplit, List.getElem?_append_right (Nat.le_refl _),
      Nat.sub_self]
    rfl
  have hpos := List.length_pos_iff.mpr hx
  have hmem : Status.sysexStart ∈ piece.tail := by
    refine List.mem_of_getElem? (i := x.length - 1) ?_
    rw [List.getElem?_tail, Nat.sub_add_cancel hpos]
    exact hstart
  exact htakes.sysexStart_not_mem_tail hmem

theorem length_sysexTail (body : Bytes) : (sysexTail body true).length = body.length + 1 := by
  rw [sysexTail, List.length_append]
  rfl

/-- A piece takes a whole SysEx that it has room for. -/
theorem sysexRun_whole (hbody : ∀ b ∈ body, isBody b = true) (hroom : body.length < room)
    (rest : Bytes) :
    sysexRun room (sysexTail body true ++ rest) = ((sysexTail body true).length, false) := by
  induction body generalizing room with
  | nil =>
    obtain ⟨k, rfl⟩ : ∃ k, room = k + 1 := ⟨room - 1, by omega⟩
    rw [sysexTail, if_pos rfl, List.nil_append, List.singleton_append, sysexRun, if_pos rfl]
    rfl
  | cons b body ih =>
    rw [List.length_cons] at hroom
    obtain ⟨k, rfl⟩ : ∃ k, room = k + 1 := ⟨room - 1, by omega⟩
    have hcons : sysexTail (b :: body) true ++ rest = b :: (sysexTail body true ++ rest) := rfl
    rw [hcons, sysexRun_cons k (hbody b (List.mem_cons_self ..)),
      ih (fun c hc => hbody c (List.mem_cons_of_mem _ hc)) (by omega)]
    rfl

/-- A SysEx that fits is one event, in whatever mode it is begun. -/
theorem next_whole (hbody : ∀ b ∈ body, isBody b = true) (hfits : body.length + 2 ≤ capacity)
    (mode : Mode) (rest : Bytes) :
    let sysex := Status.sysexStart :: sysexTail body true
    next capacity mode (sysex ++ rest) = (.ok ⟨sysex.length, sysex⟩, ⟨none, false⟩) := by
  intro sysex
  have hopen : Opens mode.inSysex Status.sysexStart := .inl rfl
  have hnext : next capacity mode (Status.sysexStart :: (sysexTail body true ++ rest)) = _ :=
    next_piece hopen
  rw [sysexRun_whole hbody (by omega), List.take_left, if_pos rfl] at hnext
  exact hnext

/-! ## What a driver does with the encoder -/

/-- A call of the encoder on some bytes. -/
structure Attempt where
  part : Bytes
  round : Round

/-- Encodes one part after the other. -/
def encodeEach (e : Encoder) : List Bytes → List Attempt × Encoder
  | [] => ([], e)
  | part :: parts =>
    let done := e.encode part
    let more := done.2.encodeEach parts
    (⟨part, ⟨done.1, done.2⟩⟩ :: more.1, more.2)

/-- What a driver did with the bytes it was handed. -/
structure Handling where
  given : Bytes
  attempts : List Attempt
  answer : Except DriverError Nat

namespace Handling

def used (h : Handling) : Nat :=
  match h.answer with
  | .ok n => n
  | .error _ => 0

/-- How many bytes were reported as used up. -/
def usedBy (handlings : List Handling) : Nat := (handlings.map used).sum

theorem usedBy_cons (h : Handling) (handlings : List Handling) :
    usedBy (h :: handlings) = h.used + usedBy handlings := by
  rw [usedBy, List.map_cons, List.sum_cons]
  rfl

/-- What is reported as used up is what the encoder used up of all the bytes. -/
def Uncut (h : Handling) : Prop :=
  ∀ n, h.answer = .ok n → ∃ a ∈ h.attempts, a.part = h.given ∧ a.round.result = .ok n

instance (h : Handling) : Decidable h.Uncut :=
  match hanswer : h.answer with
  | .error _ => isTrue fun n hn => by
    rw [hanswer] at hn
    cases hn
  | .ok n =>
    decidable_of_iff (∃ a ∈ h.attempts, a.part = h.given ∧ a.round.result = .ok n)
      ⟨fun ha m hm => by
        rw [hanswer] at hm
        cases hm
        exact ha, fun huncut => huncut n hanswer⟩

/-- Every attempt is a call of an encoder with this capacity and with room for its events. -/
structure Sound (capacity : Nat) (h : Handling) : Prop where
  given_le : h.given.length ≤ capacity
  attempts : ∀ a ∈ h.attempts, a.part <:+: h.given ∧
    ∃ e : Encoder, e.HasRoom ∧ e.capacity = capacity ∧
      e.encode a.part = (a.round.result, a.round.after)

theorem Sound.event_le {h : Handling} (hs : h.Sound capacity) {a : Attempt} (ha : a ∈ h.attempts)
    {event : Bytes} (hevent : a.round.event? = some event) : event.length ≤ capacity := by
  obtain ⟨hpart, e, hroom, rfl, henc⟩ := hs.attempts a ha
  unfold Round.event? at hevent
  split at hevent
  · rename_i n hok
    cases hevent
    rw [hok] at henc
    exact hroom.event_le (Nat.le_trans hpart.length_le hs.given_le) henc
  · cases hevent

end Handling

theorem encodeEach_sound (h : e.HasRoom) {parts : List Bytes}
    (hparts : ∀ part ∈ parts, part.length ≤ e.capacity) :
    (e.encodeEach parts).2.HasRoom ∧ (e.encodeEach parts).2.capacity = e.capacity ∧
      ∀ a ∈ (e.encodeEach parts).1, a.part ∈ parts ∧
        ∃ e' : Encoder, e'.HasRoom ∧ e'.capacity = e.capacity ∧
          e'.encode a.part = (a.round.result, a.round.after) := by
  induction parts generalizing e with
  | nil => exact ⟨h, rfl, nofun⟩
  | cons part parts ih =>
    have hpart := hparts part (List.mem_cons_self ..)
    have hcap : (e.encode part).2.capacity = e.capacity := encode_capacity e part
    obtain ⟨hroom, hsame, hall⟩ := ih (h.encode hpart) fun p hp => by
      rw [hcap]
      exact hparts p (List.mem_cons_of_mem _ hp)
    refine ⟨hroom, hsame.trans hcap, fun a ha => ?_⟩
    rcases List.mem_cons.mp ha with rfl | ha
    · exact ⟨List.mem_cons_self .., e, h, rfl, rfl⟩
    · obtain ⟨hmem, e', he', hcap', henc⟩ := hall a ha
      exact ⟨List.mem_cons_of_mem _ hmem, e', he', hcap'.trans hcap, henc⟩

end Encoder

open Encoder

/-- A driver does nothing with an encoder but encode: in each call some parts of the bytes that it
is handed, one after the other. -/
structure Driver.EncodesOnly {σ η : Type} (d : Driver σ η) where
  parts : σ → ClientId → PortId → Bytes → Encoder → List Bytes
  isInfix : ∀ s client port bytes e, ∀ part ∈ parts s client port bytes e, part <:+: bytes
  encoder_eq : ∀ s client port bytes e,
    (d.transmit s client port bytes e).2.1 = (e.encodeEach (parts s client port bytes e)).2

/-- The driver, with a record of what it does with the bytes that it is handed. -/
def Driver.EncodesOnly.recorded {σ η : Type} {d : Driver σ η} (c : d.EncodesOnly) :
    Driver (σ × List Handling) η :=
  { d.watched fun record _ => record with
    transmit s client port bytes e :=
      let r := d.transmit s.1 client port bytes e
      (r.1, r.2.1, r.2.2,
        s.2 ++ [⟨bytes, (e.encodeEach (c.parts s.1 client port bytes e)).1, r.1⟩]) }

theorem Driver.EncodesOnly.answers {σ η : Type} {d : Driver σ η} (c : d.EncodesOnly) :
    c.recorded.Answers d Prod.fst := by
  constructor <;> intros <;> rfl

namespace Encoder

variable {σ η : Type} {d : Driver σ η} {client : ClientId} {port : PortId} {e : Encoder}
  {bytes rest body x y : Bytes} {capacity : Nat} {handlings : List Handling}

/-! ## The loop of a send -/

/-- What a loop does with its bytes: each handling is given what those before it left, and one that
uses up nothing is the last. -/
inductive Passes (capacity : Nat) : Bytes → List Handling → Prop where
  | none (rest : Bytes) : Passes capacity rest []
  | last {h : Handling} (hs : h.Sound capacity) (hzero : h.used = 0) : Passes capacity h.given [h]
  | next {h : Handling} {later : List Handling} (hs : h.Sound capacity) (hpos : 0 < h.used)
      (hlater : Passes capacity (h.given.drop h.used) later) :
      Passes capacity h.given (h :: later)

/-- One call of the driver. -/
theorem HasRoom.transmit (hroom : e.HasRoom) (c : d.EncodesOnly) (hlen : bytes.length ≤ e.capacity)
    {w w' : σ × List Handling} {answer : Except DriverError Nat} {after : Encoder}
    (h : c.recorded.transmit w client port bytes e = (answer, after, w')) :
    after.HasRoom ∧ after.capacity = e.capacity ∧
      ∃ handling : Handling, handling.given = bytes ∧ handling.answer = answer ∧
        handling.Sound e.capacity ∧ w'.2 = w.2 ++ [handling] := by
  cases h
  have hparts : ∀ part ∈ c.parts w.1 client port bytes e, part <:+: bytes :=
    c.isInfix w.1 client port bytes e
  obtain ⟨hafter, hcap, hall⟩ := encodeEach_sound hroom fun part hp =>
    Nat.le_trans (hparts part hp).length_le hlen
  rw [← c.encoder_eq w.1 client port bytes e] at hafter hcap
  refine ⟨hafter, hcap, _, rfl, rfl, ⟨hlen, fun a ha => ?_⟩, rfl⟩
  obtain ⟨hmem, hattempt⟩ := hall a ha
  exact ⟨hparts a.part hmem, hattempt⟩

/-- What the driver does with the bytes of a loop. -/
theorem transmitAll_recorded (c : d.EncodesOnly) (client : ClientId) (port : PortId)
    (offset events : Nat) (w : σ × List Handling) (hroom : e.HasRoom)
    (hlen : rest.length ≤ e.capacity) :
    let sent := transmitAll c.recorded client port offset events rest e w
    sent.encoder.HasRoom ∧ sent.encoder.capacity = e.capacity ∧
      ∃ made, sent.driver.2 = w.2 ++ made ∧ Passes e.capacity rest made ∧
        ((∃ n, sent.result = .ok n) → rest.length ≤ Handling.usedBy made) := by
  fun_induction transmitAll c.recorded client port offset events rest e w with
  | case1 offset events e w =>
    exact ⟨hroom, rfl, [], (List.append_nil _).symm, .none [], fun _ => Nat.zero_le _⟩
  | case2 offset events e w first more err after w' htransmit =>
    obtain ⟨hafter, hcap, h, hgiven, hanswer, hsound, hrecord⟩ := hroom.transmit c hlen htransmit
    refine ⟨hasRoom_reset _, hcap, [h], hrecord, ?_, ?_⟩
    · rw [← hgiven]
      exact .last hsound (by rw [Handling.used, hanswer])
    · rintro ⟨n, ⟨⟩⟩
  | case3 offset events e w first more after w' htransmit =>
    obtain ⟨hafter, hcap, h, hgiven, hanswer, hsound, hrecord⟩ := hroom.transmit c hlen htransmit
    refine ⟨hasRoom_reset _, hcap, [h], hrecord, ?_, ?_⟩
    · rw [← hgiven]
      exact .last hsound (by rw [Handling.used, hanswer])
    · rintro ⟨n, ⟨⟩⟩
  | case4 offset events e w first more n after w' htransmit ih =>
    obtain ⟨hafter, hcap, h, hgiven, hanswer, hsound, hrecord⟩ := hroom.transmit c hlen htransmit
    have hused : h.used = n + 1 := by
      rw [Handling.used, hanswer]
    have hshort : (more.drop n).length ≤ after.capacity := by
      rw [hcap, List.length_drop]
      rw [List.length_cons] at hlen
      omega
    obtain ⟨hroom', hcap', made, hmade, hpasses, hall⟩ := ih hafter hshort
    refine ⟨hroom', hcap'.trans hcap, h :: made, ?_, ?_, fun hok => ?_⟩
    · rw [hmade, hrecord, List.append_assoc, List.singleton_append]
    · rw [← hgiven]
      refine .next hsound (by omega) ?_
      rw [hgiven, hused, List.drop_succ_cons, ← hcap]
      exact hpasses
    · have hrest := hall hok
      rw [List.length_drop] at hrest
      rw [Handling.usedBy_cons, hused, List.length_cons]
      omega

/-! ## A SysEx in the loop -/

/-- A call of the encoder on bytes that start with a SysEx that fits. -/
theorem encode_whole (hbody : ∀ b ∈ body, isBody b = true) (hfits : body.length + 2 ≤ e.capacity)
    (rest : Bytes) :
    let sysex := Status.sysexStart :: sysexTail body true
    e.encode (sysex ++ rest) =
      (.ok sysex.length, { e with event := sysex, mode := ⟨none, false⟩ }) := by
  intro sysex
  rw [encode, next_whole hbody hfits]

/-- One call takes the whole of a SysEx and nothing else. -/
structure Handling.TakesWhole (h : Handling) (sysex : Bytes) : Prop where
  answer_eq : h.answer = .ok sysex.length
  event_eq : ∀ a ∈ h.attempts, a.part = h.given → a.round.event? = some sysex

/-- Of bytes that start with a SysEx, the SysEx is taken whole. -/
theorem Handling.Sound.takesWhole {h : Handling} (hs : h.Sound capacity) (huncut : h.Uncut)
    (hpos : 0 < h.used) (hgiven : h.given = (Status.sysexStart :: sysexTail body true) ++ y)
    (hbody : ∀ b ∈ body, isBody b = true) :
    h.TakesWhole (Status.sysexStart :: sysexTail body true) := by
  have hfits : body.length + 2 ≤ capacity := by
    have hle := hs.given_le
    rw [hgiven, List.length_append, List.length_cons, length_sysexTail] at hle
    omega
  have hall : ∀ a ∈ h.attempts, a.part = h.given →
      a.round.result = .ok (Status.sysexStart :: sysexTail body true).length ∧
        a.round.event? = some (Status.sysexStart :: sysexTail body true) := by
    intro a ha hpart
    obtain ⟨-, e, -, rfl, henc⟩ := hs.attempts a ha
    rw [hpart, hgiven, encode_whole hbody hfits] at henc
    obtain ⟨hresult, hafter⟩ := Prod.mk.inj henc
    refine ⟨hresult.symm, ?_⟩
    rw [Round.event?, ← hresult, ← hafter]
  refine ⟨?_, fun a ha hpart => (hall a ha hpart).2⟩
  cases hanswer : h.answer with
  | error err =>
    rw [used, hanswer] at hpos
    exact absurd hpos (Nat.lt_irrefl 0)
  | ok n =>
    obtain ⟨a, ha, hpart, hresult⟩ := huncut n hanswer
    have hwhole : n = _ := Except.ok.inj (hresult.symm.trans (hall a ha hpart).1)
    rw [hwhole]

/-- In front of the start of a SysEx no more is used up than what stands there. -/
theorem Handling.Sound.used_le {h : Handling} (hs : h.Sound capacity) (huncut : h.Uncut)
    (hx : x ≠ []) (hgiven : h.given = x ++ Status.sysexStart :: y) : h.used ≤ x.length := by
  unfold used
  split
  · rename_i n hanswer
    obtain ⟨a, ha, hpart, hresult⟩ := huncut n hanswer
    obtain ⟨-, e, hroom, -, henc⟩ := hs.attempts a ha
    rw [hresult, hpart, hgiven] at henc
    cases hnext : next e.capacity e.mode (x ++ Status.sysexStart :: y) with
    | mk result mode =>
      rw [encode, hnext] at henc
      cases result with
      | error err => cases henc
      | ok event =>
        have hconsumed : event.consumed = n := Except.ok.inj (Prod.mk.inj henc).1
        rw [← hconsumed]
        exact consumed_le_of_start hroom.voice hx hnext
  · exact Nat.zero_le _

/-- A SysEx among the bytes of a loop that gets to it is taken whole in one call. -/
theorem Passes.whole (h : Passes capacity rest handlings)
    (hrest : rest = x ++ (Status.sysexStart :: sysexTail body true ++ y))
    (hbody : ∀ b ∈ body, isBody b = true) (huncut : ∀ h ∈ handlings, h.Uncut)
    (hused : x.length < Handling.usedBy handlings) :
    ∃ before h later, handlings = before ++ h :: later ∧ Handling.usedBy before = x.length ∧
      h.given = Status.sysexStart :: sysexTail body true ++ y ∧
      h.TakesWhole (Status.sysexStart :: sysexTail body true) := by
  induction h generalizing x with
  | none rest => exact absurd hused (Nat.not_lt_zero _)
  | @last h hs hzero =>
    rw [Handling.usedBy_cons, hzero] at hused
    exact absurd hused (Nat.not_lt_zero _)
  | @next h later hs hpos hlater ih =>
    have hcut := huncut h (List.mem_cons_self ..)
    by_cases hx : x = []
    · subst hx
      exact ⟨[], h, later, rfl, rfl, hrest, hs.takesWhole hcut hpos hrest hbody⟩
    · have hle := hs.used_le hcut hx hrest
      rw [Handling.usedBy_cons] at hused
      have hdrop : h.given.drop h.used =
          x.drop h.used ++ (Status.sysexStart :: sysexTail body true ++ y) := by
        rw [hrest, List.drop_append_of_le_length hle]
      obtain ⟨before, whole, rest, rfl, hbefore, hgiven, htakes⟩ :=
        ih hdrop (fun h hh => huncut h (List.mem_cons_of_mem _ hh)) (by
          rw [List.length_drop]
          omega)
      refine ⟨h :: before, whole, rest, rfl, ?_, hgiven, htakes⟩
      rw [Handling.usedBy_cons, hbefore, List.length_drop]
      omega

/-! ## Sends in a row -/

/-- What a send is asked for. -/
structure Request where
  client : ClientId
  port : PortId
  bytes : Bytes

/-- What became of a send. -/
structure Delivered where
  bytes : Bytes
  result : Except SendError Nat
  handlings : List Handling

/-- What sends in a row came to. -/
structure Sends (σ : Type) where
  all : List Delivered
  encoder : Encoder
  driver : σ

def sendEach (c : d.EncodesOnly) (e : Encoder) (s : σ) : List Request → Sends σ
  | [] => ⟨[], e, s⟩
  | r :: later =>
    let sent := e.send c.recorded r.client r.port r.bytes (s, [])
    let more := sendEach c sent.encoder sent.driver.1 later
    { more with all := ⟨r.bytes, sent.result, sent.driver.2⟩ :: more.all }

theorem sendEach_append (c : d.EncodesOnly) (e : Encoder) (s : σ) (requests later : List Request) :
    sendEach c e s (requests ++ later) =
      let now := sendEach c e s requests
      let more := sendEach c now.encoder now.driver later
      { more with all := now.all ++ more.all } := by
  induction requests generalizing e s with
  | nil => rfl
  | cons r requests ih =>
    rw [List.cons_append, sendEach, sendEach, ih]
    rfl

/-- What holds of a send with an encoder of this capacity, and goes on to hold when that grows. -/
structure Delivered.Covered (capacity : Nat) (sent : Delivered) : Prop where
  bytes_le : sent.bytes.length ≤ capacity ∨
    maxCapacity < sent.bytes.length ∧ sent.result = .error (.resize sent.bytes.length)
  event_le : ∀ h ∈ sent.handlings, ∀ a ∈ h.attempts, ∀ event,
    a.round.event? = some event → event.length ≤ capacity
  passes : ∃ room, Passes room sent.bytes sent.handlings
  all_used : (∃ n, sent.result = .ok n) → sent.bytes.length ≤ Handling.usedBy sent.handlings

theorem Delivered.Covered.mono {sent : Delivered} {grown : Nat} (h : sent.Covered capacity)
    (hle : capacity ≤ grown) : sent.Covered grown := by
  refine { h with bytes_le := ?_, event_le := ?_ }
  · rcases h.bytes_le with hbytes | hlarge
    · exact .inl (Nat.le_trans hbytes hle)
    · exact .inr hlarge
  · intro handling hh a ha event hevent
    exact Nat.le_trans (h.event_le handling hh a ha event hevent) hle

theorem Passes.sound (h : Passes capacity rest handlings) : ∀ h ∈ handlings, h.Sound capacity := by
  induction h with
  | none rest => exact nofun
  | last hs hzero =>
    intro h hh
    rw [List.mem_singleton.mp hh]
    exact hs
  | next hs hpos hlater ih =>
    intro h hh
    rcases List.mem_cons.mp hh with rfl | hh
    · exact hs
    · exact ih h hh

/-- One send. -/
theorem HasRoom.send (hroom : e.HasRoom) (c : d.EncodesOnly) (client : ClientId) (port : PortId)
    (bytes : Bytes) (s : σ) :
    let sent := e.send c.recorded client port bytes (s, [])
    e.capacity ≤ sent.encoder.capacity ∧ sent.encoder.HasRoom ∧
      (⟨bytes, sent.result, sent.driver.2⟩ : Delivered).Covered sent.encoder.capacity := by
  by_cases hne : bytes = []
  · rw [Encoder.send, if_pos hne, hne]
    exact ⟨Nat.le_refl _, hroom, .inl (Nat.zero_le _), by rintro h ⟨⟩, ⟨0, .none []⟩,
      fun _ => Nat.zero_le _⟩
  have hgrows := reserve_capacity_le e bytes.length
  have hkeeps := hroom.reserve bytes.length
  cases hreserve : e.reserve bytes.length with
  | mk reserved grown =>
    rw [hreserve] at hgrows hkeeps
    cases reserved with
    | error err =>
      obtain ⟨hrequired, hlarge⟩ := reserve_error (congrArg Prod.fst hreserve)
      rw [send_unreservable hne hreserve, hrequired]
      refine ⟨hgrows, hkeeps, .inr ⟨hlarge, rfl⟩, by rintro h ⟨⟩, ⟨0, .none bytes⟩, ?_⟩
      rintro ⟨n, ⟨⟩⟩
    | ok _ =>
      have hlen := reserve_ok hreserve
      have hloop := transmitAll_recorded c client port 0 0 (s, []) hkeeps hlen
      cases hsent : transmitAll c.recorded client port 0 0 bytes grown (s, []) with
      | mk result after w =>
        rw [hsent] at hloop
        obtain ⟨hafter, hcap, made, hmade, hpasses, hall⟩ := hloop
        dsimp only at hafter hcap hmade hall hgrows hpasses
        rw [List.nil_append] at hmade
        rw [← hcap] at hgrows hlen hpasses
        -- draining changes neither the encoder nor the record
        have hcovered : ∀ final : Except SendError Nat,
            ((∃ n, final = .ok n) → bytes.length ≤ Handling.usedBy made) →
            (⟨bytes, final, w.2⟩ : Delivered).Covered after.capacity := by
          intro final hfinal
          rw [hmade]
          refine ⟨.inl hlen, fun h hh a ha event hevent => ?_, ⟨_, hpasses⟩, hfinal⟩
          exact (hpasses.sound h hh).event_le ha hevent
        cases result with
        | error err =>
          rw [send_broken hne hreserve hsent]
          exact ⟨hgrows, hafter, hcovered _ hall⟩
        | ok events =>
          cases hdrain : c.recorded.drain w client with
          | mk drained w' =>
            rw [send_drained hne hreserve hsent hdrain]
            have hsame : w'.2 = w.2 := (congrArg (·.2.2) hdrain).symm
            refine ⟨hgrows, hafter, ?_⟩
            dsimp only
            rw [hsame]
            exact hcovered _ fun _ => hall ⟨events, rfl⟩

/-- Sends in a row. -/
theorem HasRoom.sendEach (hroom : e.HasRoom) (c : d.EncodesOnly) (s : σ)
    (requests : List Request) :
    let run := sendEach c e s requests
    e.capacity ≤ run.encoder.capacity ∧ run.encoder.HasRoom ∧
      ∀ sent ∈ run.all, sent.Covered run.encoder.capacity := by
  induction requests generalizing e s with
  | nil => exact ⟨Nat.le_refl _, hroom, nofun⟩
  | cons r later ih =>
    obtain ⟨hgrows, hkeeps, hcovered⟩ := hroom.send c r.client r.port r.bytes s
    obtain ⟨hmore, hrest, hall⟩ :=
      ih hkeeps (e.send c.recorded r.client r.port r.bytes (s, [])).driver.1
    refine ⟨Nat.le_trans hgrows hmore, hrest, fun sent hsent => ?_⟩
    rcases List.mem_cons.mp hsent with rfl | hsent
    · exact hcovered.mono hmore
    · exact hall sent hsent

theorem sendEach_bytes (c : d.EncodesOnly) (e : Encoder) (s : σ) (requests : List Request) :
    (sendEach c e s requests).all.map (·.bytes) = requests.map (·.bytes) := by
  induction requests generalizing e s with
  | nil => rfl
  | cons r later ih => rw [sendEach, List.map_cons, List.map_cons, ih]

/-- **There is room for every event.** Take any driver that does nothing with an encoder but encode
what it is handed, or parts of it, as often as it likes, a fresh encoder of any capacity, and any
sends in a row, whatever becomes of them. To record what the driver does makes no difference to a
send. The capacity never shrinks; it covers the bytes of every send so far, unless they were more
than a buffer can hold and the send failed for that; and it covers every event so far. So a SysEx
whole among the bytes of a send goes out as one event, in one call that takes it and nothing else,
if the send gets to it and the driver reports no less than it encoded. A send that succeeds gets to
all its bytes. -/
theorem sendEach_room (c : d.EncodesOnly) (capacity : Nat) (s : σ) (requests later : List Request) :
    let run := sendEach c (ofCapacity capacity) s requests
    (∀ (e : Encoder) client port bytes s,
      let sent := e.send c.recorded client port bytes (s, [])
      e.send d client port bytes s = ⟨sent.result, sent.encoder, sent.driver.1⟩) ∧
    run.all.map (·.bytes) = requests.map (·.bytes) ∧
    run.encoder.capacity ≤
      (sendEach c (ofCapacity capacity) s (requests ++ later)).encoder.capacity ∧
    ∀ sent ∈ run.all,
      (sent.bytes.length ≤ run.encoder.capacity ∨
        maxCapacity < sent.bytes.length ∧ sent.result = .error (.resize sent.bytes.length)) ∧
      (∀ h ∈ sent.handlings, ∀ a ∈ h.attempts, ∀ event,
        a.round.event? = some event → event.length ≤ run.encoder.capacity) ∧
      ((∃ n, sent.result = .ok n) → sent.bytes.length ≤ Handling.usedBy sent.handlings) ∧
      ∀ x body y, let sysex := Status.sysexStart :: sysexTail body true
        sent.bytes = x ++ (sysex ++ y) → (∀ b ∈ body, isBody b = true) →
        (∀ h ∈ sent.handlings, h.Uncut) → x.length < Handling.usedBy sent.handlings →
        ∃ before h later, sent.handlings = before ++ h :: later ∧
          Handling.usedBy before = x.length ∧ h.given = sysex ++ y ∧ h.TakesWhole sysex := by
  intro run
  obtain ⟨-, hroom, hall⟩ := (hasRoom_ofCapacity capacity).sendEach c s requests
  refine ⟨fun e client port bytes s => send_answers c.answers client port bytes e (s, []),
    sendEach_bytes c _ s requests, ?_, fun sent hsent => ?_⟩
  · rw [sendEach_append]
    exact (hroom.sendEach c _ later).1
  · have hcovered := hall sent hsent
    refine ⟨hcovered.bytes_le, hcovered.event_le, hcovered.all_used, ?_⟩
    intro x body y sysex hbytes hbody huncut hused
    obtain ⟨room, hpasses⟩ := hcovered.passes
    exact hpasses.whole hbytes hbody huncut hused

end Encoder

/-! ## On the bus -/

/-- The bus encodes all that it is handed once, if it has the port and the port is an output. -/
def Bus.parts {η : Type} (b : Bus η) (client : ClientId) (port : PortId) (bytes : Bytes) :
    List Bytes :=
  match b.ownPort client port with
  | .error _ => []
  | .ok own => if own.direction ≠ .output then [] else [bytes]

theorem Bus.transmit_encoder {η : Type} (b : Bus η) (client : ClientId) (port : PortId)
    (bytes : Bytes) (e : Encoder) :
    (b.transmit client port bytes e).2.1 = (e.encodeEach (b.parts client port bytes)).2 := by
  unfold Bus.transmit Bus.parts
  cases b.ownPort client port with
  | error err => rfl
  | ok own =>
    by_cases hdirection : own.direction ≠ .output
    · simp only [if_pos hdirection]
      rfl
    · simp only [if_neg hdirection, encodeFor]
      cases hencode : e.encode bytes with
      | mk result after => cases result <;> simp [encodeEach, hencode, Except.mapError]

def Bus.encodesOnly (η : Type) (settings : Settings) :
    (Bus.driver settings : Driver (Bus η) η).EncodesOnly where
  parts b client port bytes _ := b.parts client port bytes
  isInfix b client port bytes _ part hpart := by
    unfold Bus.parts at hpart
    split at hpart
    · cases hpart
    split at hpart
    · cases hpart
    · obtain rfl := List.mem_singleton.mp hpart
      exact List.infix_rfl
  encoder_eq b client port bytes e := b.transmit_encoder client port bytes e

namespace Encoder

/-- On the bus, from no room at all: a program change, another one without its status byte, which is
longer than what was sent, a send that fails, and a SysEx behind an active sensing byte. -/
theorem sendEach_room_four :
    let opened := (Bus.driver {} : Driver (Bus Unit) Unit).openClient {} "writer"
    let b := ((Bus.driver {}).registerPort opened.2 ⟨1⟩ "out" .output .virtual).2
    let sysex : Bytes := [0xF0, 0x01, 0xF8, 0x02, 0xF7]
    let requests : List Request := [⟨⟨1⟩, ⟨2⟩, [0xC0, 0x05]⟩, ⟨⟨1⟩, ⟨2⟩, [0x06]⟩,
      ⟨⟨1⟩, ⟨2⟩, [0x07, 0xF7]⟩, ⟨⟨1⟩, ⟨2⟩, 0xFE :: sysex ++ [0xF6]⟩]
    let run := sendEach (Bus.encodesOnly Unit {}) (ofCapacity 0) b requests
    run.encoder.capacity = 7 ∧
      run.all.map (fun sent => sent.handlings.map fun h => h.attempts.filterMap (·.round.event?)) =
        [[[[0xC0, 0x05]]], [[[0xC0, 0x06]]], [[[0xC0, 0x07]], []],
          [[[0xFE]], [sysex], [[0xF6]]]] ∧
      ∃ sent ∈ run.all, ∃ before h later, sent.handlings = before ++ h :: later ∧
        h.given = sysex ++ [0xF6] ∧ h.TakesWhole sysex := by
  intro opened b sysex requests run
  obtain ⟨-, -, -, hall⟩ := sendEach_room (Bus.encodesOnly Unit {}) 0 b requests []
  let sent := run.all.get ⟨3, by decide +kernel⟩
  have hmem : sent ∈ run.all := List.get_mem ..
  obtain ⟨-, -, -, hwhole⟩ := hall sent hmem
  obtain ⟨before, h, later, hsplit, -, hgiven, htakes⟩ :=
    hwhole [0xFE] [0x01, 0xF8, 0x02] [0xF6] (by decide +kernel) (by decide +kernel)
      (by decide +kernel) (by decide +kernel)
  exact ⟨by decide +kernel, by decide +kernel, sent, hmem, before, h, later, hsplit, hgiven, htakes⟩

end Encoder

end PatchBay
