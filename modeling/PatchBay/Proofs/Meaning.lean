import Mathlib.Data.List.Basic
import PatchBay.Message.Kind
import PatchBay.Proofs.Realtime

/-!
# What events mean

The encoder knows how many data bytes a status byte needs, and so does the parser that says what a
message means; neither looks at the other's table. They agree: what the encoder gives, status byte
first, has a meaning, and the meaning tells the bytes. To show this each kind is given its
*spellings*, the messages that it can stand for. There is one of them, but for a key that goes up
with velocity 0, which may be written as a key that goes down, and for a SysEx, which may lack its
closing byte.
-/

namespace PatchBay

namespace Kind

variable {s a b : UInt8} {x y data body : Bytes} {closed : Bool} {k : Kind}

/-! ## Ranges and spellings -/

/-- Channels count from 0 to 15 and data bytes to 127, a key goes down with a velocity of at least
1, two data bytes together count to 16383, and a SysEx holds data and real-time bytes only. -/
def InRange : Kind → Prop
  | noteOn channel note velocity => channel < 16 ∧ note < 128 ∧ 0 < velocity ∧ velocity < 128
  | noteOff channel note velocity => channel < 16 ∧ note < 128 ∧ velocity < 128
  | controlChange channel controller value => channel < 16 ∧ controller < 128 ∧ value < 128
  | programChange channel program => channel < 16 ∧ program < 128
  | pitchBend channel value => channel < 16 ∧ -8192 ≤ value ∧ value ≤ 8191
  | channelAftertouch channel pressure => channel < 16 ∧ pressure < 128
  | polyAftertouch channel note pressure => channel < 16 ∧ note < 128 ∧ pressure < 128
  | sysex payload => ∀ b ∈ payload, isBody b = true
  | timeCode value | songSelect value => value < 128
  | songPosition value => value < 16384
  | tuneRequest | timingClock | start | resume | stop | activeSensing | reset | unknown _ => True

/-- Two data bytes that hold a number of fourteen bits, the less significant first. -/
def split14 (value : Nat) : Bytes := [.ofNat (value % 128), .ofNat (value / 128)]

/-- The messages that have this meaning. -/
def spellings : Kind → List Bytes
  | noteOn channel note velocity => [[Status.noteOn ||| channel, note, velocity]]
  | noteOff channel note velocity =>
    [Status.noteOff ||| channel, note, velocity] ::
      if velocity = 0 then [[Status.noteOn ||| channel, note, 0]] else []
  | controlChange channel controller value =>
    [[Status.controlChange ||| channel, controller, value]]
  | programChange channel program => [[Status.programChange ||| channel, program]]
  | pitchBend channel value =>
    [(Status.pitchBend ||| channel) :: split14 (value + 8192).toNat]
  | channelAftertouch channel pressure => [[Status.channelAftertouch ||| channel, pressure]]
  | polyAftertouch channel note pressure => [[Status.polyAftertouch ||| channel, note, pressure]]
  | sysex payload =>
    [Status.sysexStart :: sysexTail payload false, Status.sysexStart :: sysexTail payload true]
  | timeCode value => [[Status.timeCode, value]]
  | songPosition value => [Status.songPosition :: split14 value]
  | songSelect value => [[Status.songSelect, value]]
  | tuneRequest => [[Status.tuneRequest]]
  | timingClock => [[Status.timingClock]]
  | start => [[0xFA]]
  | resume => [[0xFB]]
  | stop => [[0xFC]]
  | activeSensing => [[Status.activeSensing]]
  | reset => [[0xFF]]
  | unknown bytes => [bytes]

/-- Two messages that mean the same although their bytes differ. -/
inductive Synonyms : Bytes → Bytes → Prop
  /-- A key that goes down with velocity 0 goes up. -/
  | silent (channel note : UInt8) : channel < 16 →
    Synonyms [Status.noteOn ||| channel, note, 0] [Status.noteOff ||| channel, note, 0]
  /-- A SysEx means the same with its closing byte and without. -/
  | closing (piece : Bytes) : piece.head? = some Status.sysexStart →
    Synonyms piece (piece ++ [Status.sysexEnd])

/-- Two spellings of a kind are the same or synonyms. -/
theorem synonyms_of_spellings (hk : k.InRange) (hx : x ∈ k.spellings) (hy : y ∈ k.spellings) :
    x = y ∨ Synonyms x y ∨ Synonyms y x := by
  cases k with
  | noteOff channel note velocity =>
    obtain ⟨hchannel, -, -⟩ := hk
    by_cases hv : velocity = 0
    · subst hv
      have hsilent := Synonyms.silent channel note hchannel
      rw [spellings, if_pos rfl, List.mem_cons, List.mem_singleton] at hx hy
      rcases hx with rfl | rfl <;> rcases hy with rfl | rfl
      · exact .inl rfl
      · exact .inr (.inr hsilent)
      · exact .inr (.inl hsilent)
      · exact .inl rfl
    · rw [spellings, if_neg hv, List.mem_singleton] at hx hy
      exact .inl (hx.trans hy.symm)
  | sysex payload =>
    have hclosing : Synonyms (Status.sysexStart :: sysexTail payload false)
        (Status.sysexStart :: sysexTail payload true) := by
      have hopen : sysexTail payload false = payload := List.append_nil _
      rw [hopen]
      exact .closing (Status.sysexStart :: payload) rfl
    rw [spellings, List.mem_cons, List.mem_singleton] at hx hy
    rcases hx with rfl | rfl <;> rcases hy with rfl | rfl
    · exact .inl rfl
    · exact .inr (.inl hclosing)
    · exact .inr (.inr hclosing)
    · exact .inl rfl
  | _ =>
    rw [spellings, List.mem_singleton] at hx hy
    exact .inl (hx.trans hy.symm)

/-! ## Data bytes -/

/-- A data byte has seven bits. -/
theorem low7_eq (h : isStatus b = false) : low7 b = b ∧ b < 128 := by
  have hall : ∀ n : Fin 256, isStatus (.ofFin n) = false →
      low7 (.ofFin n) = .ofFin n ∧ UInt8.ofFin n < 128 := by decide +kernel
  exact hall b.toFin h

theorem low14_eq (ha : isStatus a = false) (hb : isStatus b = false) :
    low14 a b < 16384 ∧ split14 (low14 a b) = [a, b] := by
  obtain ⟨ha, ha'⟩ := low7_eq ha
  obtain ⟨hb, hb'⟩ := low7_eq hb
  have hlsb : a.toNat < 128 := UInt8.lt_iff_toNat_lt.mp ha'
  have hmsb : b.toNat < 128 := UInt8.lt_iff_toNat_lt.mp hb'
  have hmod : (a.toNat + 128 * b.toNat) % 128 = a.toNat := by omega
  have hdiv : (a.toNat + 128 * b.toNat) / 128 = b.toNat := by omega
  rw [low14, ha, hb, split14, hmod, hdiv, UInt8.ofNat_toNat, UInt8.ofNat_toNat]
  exact ⟨by omega, rfl⟩

theorem payload_concat_end (rest : Bytes) : payload (rest ++ [Status.sysexEnd]) = rest := by
  rw [payload, if_pos List.getLast?_concat, List.dropLast_concat]

theorem payload_of_body (hbody : ∀ b ∈ body, isBody b = true) : payload body = body := by
  have hlast : body.getLast? ≠ some Status.sysexEnd := by
    intro hlast
    have hend := hbody _ (List.mem_of_getLast? hlast)
    cases hend
  rw [payload, if_neg hlast]

/-- The closing byte is no part of the payload. -/
theorem payload_sysexTail (hbody : ∀ b ∈ body, isBody b = true) :
    payload (sysexTail body closed) = body := by
  cases closed with
  | true => exact payload_concat_end body
  | false =>
    have hopen : sysexTail body false = body := List.append_nil _
    rw [hopen, payload_of_body hbody]

/-! ## Status bytes -/

/-- The upper half of a channel message's status byte names the message, and the lower half its
channel. -/
theorem voice_split (h : isVoice s = true) :
    s &&& 0xF0 ∈ [Status.noteOff, Status.noteOn, Status.polyAftertouch, Status.controlChange,
        Status.programChange, Status.channelAftertouch, Status.pitchBend] ∧
      s = (s &&& 0xF0) ||| (s &&& 0x0F) ∧ s &&& 0x0F < 16 := by
  have hall : ∀ n : Fin 256, isVoice (.ofFin n) = true →
      UInt8.ofFin n &&& 0xF0 ∈ [Status.noteOff, Status.noteOn, Status.polyAftertouch,
          Status.controlChange, Status.programChange, Status.channelAftertouch,
          Status.pitchBend] ∧
        UInt8.ofFin n = (UInt8.ofFin n &&& 0xF0) ||| (UInt8.ofFin n &&& 0x0F) ∧
        UInt8.ofFin n &&& 0x0F < 16 := by decide +kernel
  exact hall s.toFin h

/-- A byte that is a message of its own. -/
theorem mem_of_short (h : isRealtime s = true ∨ s = Status.tuneRequest) :
    s ∈ ([0xF6, 0xF8, 0xF9, 0xFA, 0xFB, 0xFC, 0xFD, 0xFE, 0xFF] : Bytes) := by
  have hall : ∀ n : Fin 256, isRealtime (.ofFin n) = true ∨ .ofFin n = Status.tuneRequest →
      UInt8.ofFin n ∈ ([0xF6, 0xF8, 0xF9, 0xFA, 0xFB, 0xFC, 0xFD, 0xFE, 0xFF] : Bytes) := by
    decide +kernel
  exact hall s.toFin h

theorem parse?_voice (h : isVoice s = true) (data : Bytes) :
    parse? (s :: data) = some ((voice? s data).getD (.unknown (s :: data))) := by
  have hsystem : system? s data = none := by
    unfold system?
    split
    case h_12 => rfl
    all_goals cases h
  rw [parse?, hsystem]
  rfl

/-! ## Messages and their meaning -/

/-- A message with a status byte: of fixed length, or as much of a SysEx as is sent at once. -/
inductive Spoken : Bytes → Prop
  | fixed {status : UInt8} {data : Bytes} : dataCount? status = some data.length →
    (∀ b ∈ data, isStatus b = false) → Spoken (status :: data)
  | sysex {body : Bytes} (closed : Bool) : (∀ b ∈ body, isBody b = true) →
    Spoken (Status.sysexStart :: sysexTail body closed)

/-- A message is a spelling of what it means, and means something unless its one byte is
undefined. -/
structure Means (x : Bytes) (k : Kind) : Prop where
  parse : parse? x = some k
  spelled : x ∈ k.spellings
  range : k.InRange
  known : (∃ bytes, k = .unknown bytes) ↔ x = [0xF9] ∨ x = [0xFD]

theorem voice?_known (h : voice? s data = some k) (bytes : Bytes) : k ≠ .unknown bytes := by
  rintro rfl
  unfold voice? at h
  split at h
  case h_2 =>
    split at h
    · cases h
    · cases h
  all_goals cases h

theorem system?_known (h : system? s data = some k) (bytes : Bytes) : k ≠ .unknown bytes := by
  rintro rfl
  unfold system? at h
  split at h
  all_goals cases h

theorem Means.of_voice (hs : isVoice s = true) (hvoice : voice? s data = some k)
    (hspelled : s :: data ∈ k.spellings) (hrange : k.InRange) : Means (s :: data) k := by
  have hparse : parse? (s :: data) = some k := by
    rw [parse?_voice hs, hvoice]
    rfl
  refine ⟨hparse, hspelled, hrange, ?_, ?_⟩
  · rintro ⟨bytes, rfl⟩
    exact absurd rfl (voice?_known hvoice bytes)
  · rintro (h | h)
    · cases h
      cases hs
    · cases h
      cases hs

theorem Means.of_system (hsystem : system? s data = some k) (hspelled : s :: data ∈ k.spellings)
    (hrange : k.InRange) : Means (s :: data) k := by
  have hparse : parse? (s :: data) = some k := by
    rw [parse?, hsystem]
    rfl
  refine ⟨hparse, hspelled, hrange, ?_, ?_⟩
  · rintro ⟨bytes, rfl⟩
    exact absurd rfl (system?_known hsystem bytes)
  · rintro (h | h)
    · cases h
      cases hsystem
    · cases h
      cases hsystem

/-- Every channel message with one data byte has a meaning. -/
theorem means_single (hs : isVoice s = true)
    (hone : s &&& 0xF0 = Status.programChange ∨ s &&& 0xF0 = Status.channelAftertouch)
    (hdata : isStatus a = false) : ∃ k, Means [s, a] k := by
  obtain ⟨-, hsplit, hchannel⟩ := voice_split hs
  obtain ⟨ha, ha'⟩ := low7_eq hdata
  rcases hone with hkind | hkind
  · have hvoice : voice? s [a] = some (.programChange (s &&& 0x0F) (low7 a)) := by
      unfold voice?
      rw [hkind]
      rfl
    rw [ha] at hvoice
    refine ⟨_, .of_voice hs hvoice ?_ ⟨hchannel, ha'⟩⟩
    rw [spellings, ← hkind, ← hsplit]
    exact List.mem_singleton_self _
  · have hvoice : voice? s [a] = some (.channelAftertouch (s &&& 0x0F) (low7 a)) := by
      unfold voice?
      rw [hkind]
      rfl
    rw [ha] at hvoice
    refine ⟨_, .of_voice hs hvoice ?_ ⟨hchannel, ha'⟩⟩
    rw [spellings, ← hkind, ← hsplit]
    exact List.mem_singleton_self _

/-- Every channel message with two data bytes has a meaning. -/
theorem means_pair (hs : isVoice s = true)
    (hone : ¬ (s &&& 0xF0 = Status.programChange ∨ s &&& 0xF0 = Status.channelAftertouch))
    (hdata_a : isStatus a = false) (hdata_b : isStatus b = false) : ∃ k, Means [s, a, b] k := by
  obtain ⟨hmem, hsplit, hchannel⟩ := voice_split hs
  obtain ⟨ha, ha'⟩ := low7_eq hdata_a
  obtain ⟨hb, hb'⟩ := low7_eq hdata_b
  simp only [List.mem_cons, List.not_mem_nil, or_false] at hmem
  rcases hmem with hkind | hkind | hkind | hkind | hkind | hkind | hkind
  · have hvoice : voice? s [a, b] = some (.noteOff (s &&& 0x0F) (low7 a) (low7 b)) := by
      unfold voice?
      rw [hkind]
      rfl
    rw [ha, hb] at hvoice
    refine ⟨_, .of_voice hs hvoice ?_ ⟨hchannel, ha', hb'⟩⟩
    rw [spellings, ← hkind, ← hsplit]
    exact List.mem_cons_self
  · have hvoice : voice? s [a, b] = if low7 b = 0 then some (.noteOff (s &&& 0x0F) (low7 a) 0)
        else some (.noteOn (s &&& 0x0F) (low7 a) (low7 b)) := by
      unfold voice?
      rw [hkind]
      rfl
    rw [ha, hb] at hvoice
    by_cases hzero : b = 0
    · subst hzero
      refine ⟨_, .of_voice hs hvoice ?_ ⟨hchannel, ha', hb'⟩⟩
      rw [spellings, if_pos rfl, ← hkind, ← hsplit]
      exact List.mem_cons_of_mem _ (List.mem_singleton_self _)
    · rw [if_neg hzero] at hvoice
      have hpos : 0 < b := UInt8.pos_iff_ne_zero.mpr hzero
      refine ⟨_, .of_voice hs hvoice ?_ ⟨hchannel, ha', hpos, hb'⟩⟩
      rw [spellings, ← hkind, ← hsplit]
      exact List.mem_singleton_self _
  · have hvoice : voice? s [a, b] = some (.polyAftertouch (s &&& 0x0F) (low7 a) (low7 b)) := by
      unfold voice?
      rw [hkind]
      rfl
    rw [ha, hb] at hvoice
    refine ⟨_, .of_voice hs hvoice ?_ ⟨hchannel, ha', hb'⟩⟩
    rw [spellings, ← hkind, ← hsplit]
    exact List.mem_singleton_self _
  · have hvoice : voice? s [a, b] = some (.controlChange (s &&& 0x0F) (low7 a) (low7 b)) := by
      unfold voice?
      rw [hkind]
      rfl
    rw [ha, hb] at hvoice
    refine ⟨_, .of_voice hs hvoice ?_ ⟨hchannel, ha', hb'⟩⟩
    rw [spellings, ← hkind, ← hsplit]
    exact List.mem_singleton_self _
  · exact absurd (.inl hkind) hone
  · exact absurd (.inr hkind) hone
  · have hvoice : voice? s [a, b] =
        some (.pitchBend (s &&& 0x0F) ((low14 a b : Int) - 8192)) := by
      unfold voice?
      rw [hkind]
      rfl
    obtain ⟨hlt, hsplit14⟩ := low14_eq hdata_a hdata_b
    have hback : ((low14 a b : Int) - 8192 + 8192).toNat = low14 a b := by omega
    refine ⟨_, .of_voice hs hvoice ?_ ⟨hchannel, by omega, by omega⟩⟩
    rw [spellings, hback, hsplit14, ← hkind, ← hsplit]
    exact List.mem_singleton_self _

/-- Every channel message has a meaning. -/
theorem means_voice (hs : isVoice s = true) (hcount : dataCount? s = some data.length)
    (hdata : ∀ b ∈ data, isStatus b = false) : ∃ k, Means (s :: data) k := by
  have hlen : data.length = Encoder.channelDataCount s :=
    Option.some.inj (hcount.symm.trans (Encoder.channelDataCount_eq hs))
  rw [Encoder.channelDataCount] at hlen
  by_cases hone : s &&& 0xF0 = Status.programChange ∨ s &&& 0xF0 = Status.channelAftertouch
  · rw [if_pos hone] at hlen
    obtain ⟨a, rfl⟩ := List.length_eq_one_iff.mp hlen
    exact means_single hs hone (hdata a (List.mem_singleton_self a))
  · rw [if_neg hone] at hlen
    obtain ⟨a, b, rfl⟩ := List.length_eq_two.mp hlen
    exact means_pair hs hone (hdata a List.mem_cons_self)
      (hdata b (List.mem_cons_of_mem a List.mem_cons_self))

/-- Every message of fixed length has a meaning, unless its one byte is undefined. -/
theorem means_fixed (hcount : dataCount? s = some data.length)
    (hdata : ∀ b ∈ data, isStatus b = false) : ∃ k, Means (s :: data) k := by
  by_cases hs : isVoice s = true
  · exact means_voice hs hcount hdata
  rw [dataCount?] at hcount
  split at hcount
  · rename_i hshort
    have hnone : data = [] := List.length_eq_zero_iff.mp (Option.some.inj hcount).symm
    subst hnone
    have hmem := mem_of_short hshort
    simp only [List.mem_cons, List.not_mem_nil, or_false] at hmem
    rcases hmem with rfl | rfl | rfl | rfl | rfl | rfl | rfl | rfl | rfl
    · exact ⟨.tuneRequest, .of_system rfl (List.mem_singleton_self _) trivial⟩
    · exact ⟨.timingClock, .of_system rfl (List.mem_singleton_self _) trivial⟩
    · exact ⟨.unknown [0xF9], rfl, List.mem_singleton_self _, trivial, fun _ => .inl rfl,
        fun _ => ⟨_, rfl⟩⟩
    · exact ⟨.start, .of_system rfl (List.mem_singleton_self _) trivial⟩
    · exact ⟨.resume, .of_system rfl (List.mem_singleton_self _) trivial⟩
    · exact ⟨.stop, .of_system rfl (List.mem_singleton_self _) trivial⟩
    · exact ⟨.unknown [0xFD], rfl, List.mem_singleton_self _, trivial, fun _ => .inr rfl,
        fun _ => ⟨_, rfl⟩⟩
    · exact ⟨.activeSensing, .of_system rfl (List.mem_singleton_self _) trivial⟩
    · exact ⟨.reset, .of_system rfl (List.mem_singleton_self _) trivial⟩
  split at hcount
  · rename_i hone
    obtain ⟨a, rfl⟩ := List.length_eq_one_iff.mp (Option.some.inj hcount).symm
    obtain ⟨ha, ha'⟩ := low7_eq (hdata a (List.mem_singleton_self a))
    rcases hone with rfl | rfl
    · have htime : system? Status.timeCode [a] = some (.timeCode (low7 a)) := rfl
      rw [ha] at htime
      exact ⟨_, .of_system htime (List.mem_singleton_self _) ha'⟩
    · have hselect : system? Status.songSelect [a] = some (.songSelect (low7 a)) := rfl
      rw [ha] at hselect
      exact ⟨_, .of_system hselect (List.mem_singleton_self _) ha'⟩
  split at hcount
  · rename_i htwo
    subst htwo
    obtain ⟨a, b, rfl⟩ := List.length_eq_two.mp (Option.some.inj hcount).symm
    obtain ⟨hlt, hsplit⟩ := low14_eq (hdata a (by simp)) (hdata b (by simp))
    refine ⟨.songPosition (low14 a b), .of_system rfl ?_ hlt⟩
    rw [spellings, hsplit]
    exact List.mem_singleton_self _
  · -- only channel messages are left
    refine absurd ?_ hs
    split at hcount
    · rename_i hrange
      have hlow : Status.noteOff ≤ s := UInt8.le_trans (by decide) hrange.1
      have hhigh : s < Status.sysexStart := UInt8.lt_trans hrange.2 (by decide)
      rw [isVoice, decide_eq_true hlow, decide_eq_true hhigh]
      rfl
    · cases hcount

theorem Spoken.means (h : Spoken x) : ∃ k, Means x k := by
  cases h with
  | fixed hcount hdata => exact means_fixed hcount hdata
  | sysex closed hbody =>
    rename_i body
    have hsystem : system? Status.sysexStart (sysexTail body closed) =
        some (.sysex (payload (sysexTail body closed))) := rfl
    rw [payload_sysexTail hbody] at hsystem
    refine ⟨.sysex body, .of_system hsystem ?_ hbody⟩
    cases closed with
    | false => exact List.mem_cons_self ..
    | true => exact List.mem_cons_of_mem _ (List.mem_singleton_self _)

/-- The status byte of a key that goes down or up holds its channel. -/
theorem voice_join {channel : UInt8} (h : channel < 16) {kind : UInt8}
    (hkind : kind = Status.noteOn ∨ kind = Status.noteOff) :
    isVoice (kind ||| channel) = true ∧ (kind ||| channel) &&& 0xF0 = kind ∧
      (kind ||| channel) &&& 0x0F = channel := by
  have hall : ∀ n : Fin 256, UInt8.ofFin n < 16 → ∀ kind ∈ [Status.noteOn, Status.noteOff],
      isVoice (kind ||| .ofFin n) = true ∧ (kind ||| .ofFin n) &&& 0xF0 = kind ∧
        (kind ||| .ofFin n) &&& 0x0F = .ofFin n := by decide +kernel
  exact hall channel.toFin h kind (by simpa using hkind)

/-- In front of its closing byte a SysEx holds nothing but its body. -/
theorem Spoken.isBody {rest : Bytes}
    (h : Spoken (Status.sysexStart :: rest ++ [Status.sysexEnd])) :
    ∀ b ∈ rest, isBody b = true := by
  generalize hx : Status.sysexStart :: rest ++ [Status.sysexEnd] = x at h
  cases h with
  | fixed hcount hdata =>
    cases hx
    cases hcount
  | sysex closed hbody =>
    have htail := List.tail_eq_of_cons_eq hx
    cases closed with
    | true =>
      rw [List.append_cancel_right htail]
      exact hbody
    | false =>
      have hmem : Status.sysexEnd ∈ rest ++ [Status.sysexEnd] := List.mem_concat_self
      rw [show rest ++ [Status.sysexEnd] = _ from htail, sysexTail, if_neg Bool.false_ne_true,
        List.append_nil] at hmem
      cases hbody _ hmem

/-- Synonyms have one meaning. -/
theorem Synonyms.parse?_eq (h : Synonyms x y) (hy : Spoken y) : parse? x = parse? y := by
  cases h with
  | silent channel note hchannel =>
    obtain ⟨hon, honKind, honChannel⟩ := voice_join hchannel (.inl rfl)
    obtain ⟨hoff, hoffKind, hoffChannel⟩ := voice_join hchannel (.inr rfl)
    have hdown : voice? (Status.noteOn ||| channel) [note, 0] =
        some (.noteOff channel (low7 note) 0) := by
      unfold voice?
      rw [honKind, honChannel]
      rfl
    have hup : voice? (Status.noteOff ||| channel) [note, 0] =
        some (.noteOff channel (low7 note) 0) := by
      unfold voice?
      rw [hoffKind, hoffChannel]
      rfl
    rw [parse?_voice hon, parse?_voice hoff, hdown, hup]
    rfl
  | closing _ hpiece =>
    obtain ⟨rest, rfl⟩ := List.head?_eq_some_iff.mp hpiece
    have hpayload : payload (rest ++ [Status.sysexEnd]) = payload rest :=
      (payload_concat_end rest).trans (payload_of_body hy.isBody).symm
    exact congrArg (fun body => some (Kind.sysex body)) hpayload.symm

end Kind

namespace Encoder

/-- An event of an encoder that opens with a status byte, and does not close a SysEx. -/
def Announced (x : Bytes) : Prop :=
  ∃ (e : Encoder) (bytes : Bytes) (n : Nat), e.Reachable ∧ (e.encode bytes).1 = .ok n ∧
    (e.encode bytes).2.event = x ∧
    ∃ s, x.head? = some s ∧ isStatus s = true ∧ s ≠ Status.sysexEnd

variable {mode after : Mode} {rest piece taken : Bytes}

theorem Opens.eq_sysexStart {inSysex : Bool} {first : UInt8} (h : Opens inSysex first)
    (hs : isStatus first = true) : first = Status.sysexStart := by
  rcases h with rfl | ⟨-, hdata⟩
  · rfl
  · rw [hdata] at hs
    cases hs

/-- What an encoder takes is a message, unless it goes on with a SysEx or closes one. -/
theorem Takes.spoken {s : UInt8} (h : Takes mode rest piece taken after)
    (hhead : taken.head? = some s) (hs : isStatus s = true) (hend : s ≠ Status.sysexEnd) :
    Kind.Spoken taken := by
  cases h with
  | realtime hrt =>
    rename_i b
    have hcount : dataCount? b = some ([] : Bytes).length := if_pos (.inl hrt)
    exact .fixed hcount nofun
  | message running hcount hdata hrt => exact .fixed hcount hdata
  | group hcount hdata hrt hshut => exact .fixed hcount hdata
  | closing hsx =>
    cases hhead
    exact absurd rfl hend
  | piece running closed hopens hbody =>
    cases hhead
    rw [hopens.eq_sysexStart hs]
    exact .sysex closed hbody
  | broken running hopens hbody hne hbreaks =>
    cases hhead
    rw [hopens.eq_sysexStart hs]
    have hopened := Kind.Spoken.sysex false hbody
    rwa [sysexTail, if_neg Bool.false_ne_true, List.append_nil] at hopened

theorem Announced.spoken {x : Bytes} (h : Announced x) : Kind.Spoken x := by
  obtain ⟨e, bytes, n, he, hok, hevent, s, hhead, hs, hend⟩ := h
  cases hnext : next e.capacity e.mode bytes with
  | mk result after =>
    cases result with
    | error err =>
      rw [encode, hnext] at hok
      cases hok
    | ok event =>
      rw [encode, hnext] at hevent
      subst hevent
      obtain ⟨piece, rest, -, -, htakes, -⟩ := next_takes he.runsVoice hnext
      exact htakes.spoken hhead hs hend

/-- **Encoder and parser agree.** An event that opens with a status byte, and does not close a
SysEx, has a meaning, and every number in it is within its range; it is unknown only if it is one of
the two undefined real-time bytes. Two such events mean the same only if they are the same, but for
two pairs: a key that goes down with velocity 0 and the same key going up with velocity 0, and a
SysEx without its closing byte and with it. -/
theorem Announced.meaning {x : Bytes} (hx : Announced x) :
    (∃ k, Kind.parse? x = some k ∧ k.InRange ∧
      ((∃ bytes, k = .unknown bytes) ↔ x = [0xF9] ∨ x = [0xFD])) ∧
      ∀ y, Announced y →
        (Kind.parse? x = Kind.parse? y ↔ x = y ∨ Kind.Synonyms x y ∨ Kind.Synonyms y x) := by
  obtain ⟨k, hk⟩ := hx.spoken.means
  refine ⟨⟨k, hk.parse, hk.range, hk.known⟩, fun y hy => ⟨fun heq => ?_, ?_⟩⟩
  · obtain ⟨k', hk'⟩ := hy.spoken.means
    have hsame : k = k' := by
      rw [hk.parse, hk'.parse] at heq
      exact Option.some.inj heq
    subst hsame
    exact Kind.synonyms_of_spellings hk.range hk.spelled hk'.spelled
  · rintro (rfl | hsyn | hsyn)
    · rfl
    · exact hsyn.parse?_eq hy.spoken
    · exact (hsyn.parse?_eq hx.spoken).symm

/-- A key that goes down with velocity 0 in running status and one that goes up, and a SysEx that is
cut in front of its closing byte and one that is not. -/
theorem announced_meaning_pairs :
    Announced [0x93, 0x3C, 0x00] ∧ Announced [0x83, 0x3C, 0x00] ∧
      Kind.parse? [0x93, 0x3C, 0x00] = Kind.parse? [0x83, 0x3C, 0x00] ∧
      Announced [0xF0, 0x01] ∧ Announced [0xF0, 0x01, 0xF7] ∧
      Kind.parse? [0xF0, 0x01] = Kind.parse? [0xF0, 0x01, 0xF7] := by
  have hdown : Announced [0x93, 0x3C, 0x00] :=
    ⟨((ofCapacity 4).encode [0x93, 0x3C, 0x40]).2, [0x3C, 0x00], 2, (Reachable.fresh 4).encode _,
      rfl, rfl, 0x93, rfl, rfl, by decide⟩
  have hup : Announced [0x83, 0x3C, 0x00] :=
    ⟨ofCapacity 4, [0x83, 0x3C, 0x00], 3, .fresh 4, rfl, rfl, 0x83, rfl, rfl, by decide⟩
  have hcut : Announced [0xF0, 0x01] :=
    ⟨ofCapacity 2, [0xF0, 0x01, 0xF7], 2, .fresh 2, rfl, rfl, 0xF0, rfl, rfl, by decide⟩
  have hwhole : Announced [0xF0, 0x01, 0xF7] :=
    ⟨ofCapacity 4, [0xF0, 0x01, 0xF7], 3, .fresh 4, rfl, rfl, 0xF0, rfl, rfl, by decide⟩
  have hsilent := (hdown.meaning.2 _ hup).mpr (.inr (.inl (.silent 3 0x3C (by decide))))
  have hclosing := (hcut.meaning.2 _ hwhole).mpr (.inr (.inl (.closing [0xF0, 0x01] rfl)))
  exact ⟨hdown, hup, hsilent, hcut, hwhole, hclosing⟩

end Encoder

end PatchBay
