import PatchBay.Proofs.Encoding

/-!
# A stream that is sent in parts

The spelling of a sequence of messages may be cut between two messages and anywhere inside a SysEx.
A *cursor* says how far a stream has been sent. One call of the encoder moves it by one event, and
as long as a part ends where the stream may be cut, a part is used up completely.
-/

namespace PatchBay

/-! ## Messages and cuts -/

namespace Phrase

/-- The message that a phrase stands for, with its status byte. -/
def said : Phrase → Bytes
  | message status data | group status data => status :: data
  | sysex body closed => (sysex body closed).bytes

/-- Whether a phrase stands for one well-formed message. A SysEx has to be closed, with nothing but
data in it. -/
def IsMessage : Phrase → Prop
  | message status data | group status data =>
    dataCount? status = some data.length ∧ ∀ b ∈ data, isStatus b = false
  | sysex body closed => closed = true ∧ ∀ b ∈ body, isStatus b = false

instance (p : Phrase) : Decidable p.IsMessage :=
  match p with
  | message status data | group status data =>
    inferInstanceAs (Decidable (dataCount? status = some data.length ∧ ∀ b ∈ data, _ = false))
  | sysex body closed => inferInstanceAs (Decidable (closed = true ∧ ∀ b ∈ body, _ = false))

def isSysex : Phrase → Bool
  | sysex .. => true
  | _ => false

end Phrase

/-- Whether a stream of phrases may be cut after `n` bytes: at a boundary between two phrases, or
inside a SysEx. -/
def Cuttable : List Phrase → Nat → Prop
  | [], n => n = 0
  | p :: ps, n => n = 0 ∨ p.isSysex = true ∧ n ≤ p.bytes.length ∨
      p.bytes.length ≤ n ∧ Cuttable ps (n - p.bytes.length)

instance decideCuttable : ∀ (ps : List Phrase) (n : Nat), Decidable (Cuttable ps n)
  | [], n => inferInstanceAs (Decidable (n = 0))
  | p :: ps, n =>
    have := decideCuttable ps (n - p.bytes.length)
    inferInstanceAs (Decidable (n = 0 ∨ p.isSysex = true ∧ n ≤ p.bytes.length ∨
      p.bytes.length ≤ n ∧ Cuttable ps (n - p.bytes.length)))

theorem cuttable_zero (ps : List Phrase) : Cuttable ps 0 := by
  cases ps with
  | nil => rfl
  | cons p ps => exact .inl rfl

/-- How far a stream has been sent. -/
inductive Cursor where
  | between (phrases : List Phrase)
  /-- Into a SysEx, of which `sent` is out and what is `left` follows, before these phrases. -/
  | inside (sent left : Bytes) (phrases : List Phrase)

namespace Cursor

/-- What has not been sent yet. -/
def stream : Cursor → Bytes
  | between ps => spelling ps
  | inside _ left ps => sysexTail left true ++ spelling ps

/-- The messages that have not been sent completely. -/
def owed : Cursor → List Bytes
  | between ps => ps.map Phrase.said
  | inside sent left ps => (sent ++ sysexTail left true) :: ps.map Phrase.said

/-- Whether what has not been sent may be cut after `n` bytes. -/
def MayCut : Cursor → Nat → Prop
  | between ps, n => Cuttable ps n
  | inside _ left ps, n => n ≤ (sysexTail left true).length ∨
      Cuttable ps (n - (sysexTail left true).length)

/-- Whether the encoder's mode goes with the cursor. -/
def Ready (mode : Encoder.Mode) : Cursor → Prop
  | between ps => mode.inSysex = false ∧ RunsVoice mode.running ∧ Sentence mode.running ps [] ∧
      ∀ p ∈ ps, p.IsMessage
  | inside _ left ps => mode = ⟨none, true⟩ ∧ (∀ b ∈ left, isStatus b = false) ∧
      Sentence none ps [] ∧ ∀ p ∈ ps, p.IsMessage

/-- One event: it uses up `piece` of the stream and moves the cursor. -/
inductive Step : Cursor → Bytes → Bytes → Cursor → Prop
  | phrase {p : Phrase} {ps : List Phrase} (h : p.IsMessage) :
      Step (between (p :: ps)) p.bytes p.said (between ps)
  | opening {body : Bytes} {ps : List Phrase} (k : Nat) (h : ∀ b ∈ body, isStatus b = false) :
      Step (between (.sysex body true :: ps)) (Status.sysexStart :: body.take k)
        (Status.sysexStart :: body.take k)
        (inside (Status.sysexStart :: body.take k) (body.drop k) ps)
  | middle {sent left : Bytes} {b : UInt8} {ps : List Phrase} (k : Nat)
      (h : ∀ c ∈ b :: left, isStatus c = false) :
      Step (inside sent (b :: left) ps) (b :: left.take k) (b :: left.take k)
        (inside (sent ++ b :: left.take k) (left.drop k) ps)
  | closing {sent left : Bytes} {ps : List Phrase} (h : ∀ b ∈ left, isStatus b = false) :
      Step (inside sent left ps) (sysexTail left true) (sysexTail left true) (between ps)

/-- The events that move a cursor from one place to another. -/
inductive Steps : Cursor → List Bytes → Cursor → Prop
  | refl (c : Cursor) : Steps c [] c
  | cons {c middle after : Cursor} {piece event : Bytes} {events : List Bytes}
      (first : Step c piece event middle) (rest : Steps middle events after) :
      Steps c (event :: events) after

theorem Steps.trans {c middle after : Cursor} {first second : List Bytes}
    (h : Steps c first middle) (h' : Steps middle second after) :
    Steps c (first ++ second) after := by
  induction h with
  | refl => exact h'
  | cons hstep _ ih => exact .cons hstep (ih h')

variable {c c' : Cursor} {piece event x y : Bytes} {mode : Encoder.Mode}

/-! ## What one event leaves -/

theorem Step.stream_eq (h : Step c piece event c') : c.stream = piece ++ c'.stream := by
  cases h with
  | phrase => rfl
  | @opening body ps k h =>
    change Status.sysexStart :: sysexTail body true ++ spelling ps = _
    rw [sysexTail_split k]
    simp [stream]
  | @middle sent left b ps k h =>
    change b :: sysexTail left true ++ spelling ps = _
    rw [sysexTail_split k]
    simp [stream]
  | closing => rfl

/-- What may be cut behind the bytes that were used up may be cut afterwards. -/
theorem Step.mayCut (h : Step c piece event c') {n : Nat} (hn : c.MayCut (piece.length + n)) :
    c'.MayCut n := by
  have hcut : ∀ (k : Nat) (left : Bytes),
      (sysexTail left true).length = (left.take k).length + (sysexTail (left.drop k) true).length :=
    fun k left => by rw [sysexTail_split k, List.length_append]
  cases h with
  | @phrase p ps h =>
    rcases hn with hn | ⟨-, hn⟩ | ⟨-, hn⟩
    · rw [show n = 0 by omega]
      exact cuttable_zero ps
    · rw [show n = 0 by omega]
      exact cuttable_zero ps
    · rwa [Nat.add_sub_cancel_left] at hn
  | @opening body ps k h =>
    have hlen : (Phrase.sysex body true).bytes.length = (sysexTail body true).length + 1 := rfl
    have hk := hcut k body
    rw [List.length_cons] at hn
    rcases hn with hn | ⟨-, hn⟩ | ⟨hle, hn⟩
    · omega
    · exact .inl (by omega)
    · refine .inr ?_
      rwa [show (body.take k).length + 1 + n - (Phrase.sysex body true).bytes.length =
        n - (sysexTail (body.drop k) true).length by omega] at hn
  | @middle sent left b ps k h =>
    have hlen : (sysexTail (b :: left) true).length = (sysexTail left true).length + 1 := rfl
    have hk := hcut k left
    rw [List.length_cons] at hn
    rcases hn with hn | hn
    · exact .inl (by omega)
    · refine .inr ?_
      rwa [show (left.take k).length + 1 + n - (sysexTail (b :: left) true).length =
        n - (sysexTail (left.drop k) true).length by omega] at hn
  | closing h =>
    rcases hn with hn | hn
    · rw [show n = 0 by omega]
      exact cuttable_zero _
    · rwa [Nat.add_sub_cancel_left] at hn

/-! ## What the encoder makes of a part -/

theorem isBody_of_data {b : UInt8} (h : isStatus b = false) : isBody b = true := by
  simp [isBody, h]

/-- A part that starts with what is left of a SysEx ends inside it or contains its end. -/
theorem prefix_of_tail {left z : Bytes} (h : sysexTail left true ++ z = x ++ y) :
    (∃ more, x = sysexTail left true ++ more) ∨ ∃ k, x = left.take k := by
  rcases List.append_eq_append_iff.mp h with ⟨more, hx, -⟩ | ⟨more, htail, -⟩
  · exact .inl ⟨more, hx⟩
  · cases hm : more.getLast? with
    | none =>
      rw [List.getLast?_eq_none_iff.mp hm, List.append_nil] at htail
      exact .inl ⟨[], by rw [htail, List.append_nil]⟩
    | some last =>
      obtain ⟨front, rfl⟩ := List.getLast?_eq_some_iff.mp hm
      rw [sysexTail, if_pos rfl, ← List.append_assoc] at htail
      obtain ⟨rfl, -⟩ := List.append_inj' htail rfl
      exact .inr ⟨x.length, by rw [List.take_left]⟩

/-- The next event of a part that starts inside a SysEx, or with its first byte. -/
theorem next_prefix (capacity : Nat) {first : UInt8} {left z : Bytes}
    (hopen : Encoder.Opens mode.inSysex first)
    (hrun : first = Status.sysexStart ∨ mode.running = none)
    (hleft : ∀ b ∈ left, isStatus b = false) (h : sysexTail left true ++ z = x ++ y) :
    ∃ piece more mode', x = piece ++ more ∧
      Encoder.next capacity mode (first :: x) =
        (.ok ⟨(first :: piece).length, first :: piece⟩, mode') ∧
      ((∃ k, piece = left.take k ∧ mode' = ⟨none, true⟩) ∨
        piece = sysexTail left true ∧ mode' = ⟨none, false⟩) := by
  rcases prefix_of_tail h with ⟨more, rfl⟩ | ⟨n, rfl⟩
  · have hbody : ∀ b ∈ left, isBody b = true := fun b hb => isBody_of_data (hleft b hb)
    have hclosed : true = false → Breaks more := fun h => by cases h
    rcases Encoder.next_sysex capacity hopen hrun hbody hclosed with
      ⟨k, hk, -, hnext⟩ | ⟨-, -, hnext⟩
    · refine ⟨left.take k, sysexTail (left.drop k) true ++ more, _, ?_, ?_, .inl ⟨k, rfl, rfl⟩⟩
      · rw [← List.append_assoc, ← sysexTail_split]
      · rw [List.length_cons, List.length_take_of_le hk]
        exact hnext
    · exact ⟨sysexTail left true, more, _, rfl, hnext, .inr ⟨rfl, rfl⟩⟩
  · have hbody : ∀ b ∈ left.take n, isBody b = true :=
      fun b hb => isBody_of_data (hleft b (List.mem_of_mem_take hb))
    have hnone : sysexTail (left.take n) false = left.take n := List.append_nil _
    have hbreaks : false = false → Breaks [] := fun _ b hb => by cases hb
    rcases Encoder.next_sysex capacity hopen hrun hbody hbreaks with
      ⟨k, hk, -, hnext⟩ | ⟨hover, -⟩
    · rw [hnone, List.append_nil] at hnext
      refine ⟨(left.take n).take k, (left.take n).drop k, _, (List.take_append_drop _ _).symm, ?_,
        .inl ⟨min k n, List.take_take, rfl⟩⟩
      rw [List.length_cons, List.length_take_of_le hk]
      exact hnext
    · simp at hover

/-- A part that starts with a short phrase holds all of it. -/
theorem prefix_of_short {p : Phrase} {ps : List Phrase} (hp : p.isSysex = false) (hx : x ≠ [])
    (hs : spelling (p :: ps) = x ++ y) (hc : Cuttable (p :: ps) x.length) :
    ∃ more, x = p.bytes ++ more := by
  have hle : p.bytes.length ≤ x.length := by
    rcases hc with hc | ⟨hsx, -⟩ | ⟨hle, -⟩
    · exact absurd (List.length_eq_zero_iff.mp hc) hx
    · rw [hp] at hsx
      cases hsx
    · exact hle
  rcases List.append_eq_append_iff.mp hs with ⟨more, hmore, -⟩ | ⟨more, hmore, -⟩
  · exact ⟨more, hmore⟩
  · have hlen := congrArg List.length hmore
    rw [List.length_append] at hlen
    have hnone : more = [] := List.length_eq_zero_iff.mp (by omega)
    exact ⟨[], by rw [hmore, hnone, List.append_nil, List.append_nil]⟩

/-- **The encoder moves the cursor.** In front of a part that may be cut off the encoder takes an
event, and is ready for what follows it. -/
theorem Ready.next (hr : c.Ready mode) (hx : x ≠ []) (hs : c.stream = x ++ y)
    (hc : c.MayCut x.length) (capacity : Nat) :
    ∃ piece more event mode' c', x = piece ++ more ∧ piece ≠ [] ∧
      Encoder.next capacity mode x = (.ok ⟨piece.length, event⟩, mode') ∧
      Step c piece event c' ∧ c'.Ready mode' := by
  cases c with
  | between ps =>
    cases ps with
    | nil => exact absurd (List.append_eq_nil_iff.mp hs.symm).1 hx
    | cons p ps =>
      obtain ⟨hsx, hvoice, ⟨hform, hrest⟩, hall⟩ := hr
      have hp := hall p (List.mem_cons_self ..)
      have hps : ∀ q ∈ ps, q.IsMessage := fun q hq => hall q (List.mem_cons_of_mem _ hq)
      have hafter := hform.after_runsVoice hvoice
      cases p with
      | message s d =>
        obtain ⟨more, rfl⟩ := prefix_of_short rfl hx hs hc
        have hmode : (if isRealtime s then mode else ⟨if isVoice s then some s else none, false⟩) =
            ⟨(Phrase.message s d).after mode.running, false⟩ := by
          simp only [Phrase.after]
          split
          · rw [← hsx]
          · rfl
        have hnext : Encoder.next capacity mode (s :: d ++ more) = _ :=
          Encoder.next_message hp.1 hp.2
        rw [hmode] at hnext
        exact ⟨s :: d, more, _, _, between ps, rfl, List.cons_ne_nil _ _, hnext, .phrase hp, rfl,
          hafter, hrest, hps⟩
      | group s d =>
        obtain ⟨more, rfl⟩ := prefix_of_short rfl hx hs hc
        have hnext : Encoder.next capacity mode (d ++ more) = _ :=
          Encoder.next_group hform.1 hsx (hvoice s hform.1) hp.1 hp.2
        have hstay : (Phrase.group s d).after mode.running = mode.running := hform.1.symm
        rw [hstay] at hrest
        exact ⟨d, more, _, mode, between ps, rfl, hform.bytes_ne_nil hvoice, hnext, .phrase hp, hsx,
          hvoice, hrest, hps⟩
      | sysex body closed =>
        obtain ⟨rfl, hdata⟩ := hp
        obtain ⟨first, x, rfl⟩ := List.exists_cons_of_ne_nil hx
        obtain ⟨rfl, htail⟩ := List.cons.inj hs
        obtain ⟨piece, more, mode', rfl, hnext, hpiece⟩ :=
          next_prefix capacity (.inl rfl) (.inl rfl) hdata htail
        rcases hpiece with ⟨k, rfl, rfl⟩ | ⟨rfl, rfl⟩
        · exact ⟨_, more, _, _, _, rfl, List.cons_ne_nil _ _, hnext, .opening k hdata, rfl,
            fun b hb => hdata b (List.mem_of_mem_drop hb), hrest, hps⟩
        · exact ⟨_, more, _, _, _, rfl, List.cons_ne_nil _ _, hnext,
            .phrase ⟨rfl, hdata⟩, rfl, runsVoice_none, hrest, hps⟩
  | inside sent left ps =>
    obtain ⟨rfl, hdata, hrest, hps⟩ := hr
    obtain ⟨first, x, rfl⟩ := List.exists_cons_of_ne_nil hx
    cases left with
    | nil =>
      obtain ⟨rfl, -⟩ := List.cons.inj hs
      have hnext : Encoder.next capacity ⟨none, true⟩ (Status.sysexEnd :: x) = _ :=
        Encoder.next_end rfl
      exact ⟨[Status.sysexEnd], x, _, _, between ps, rfl, List.cons_ne_nil _ _, hnext,
        .closing hdata, rfl, runsVoice_none, hrest, hps⟩
    | cons b left =>
      obtain ⟨rfl, htail⟩ := List.cons.inj hs
      have hleft : ∀ c ∈ left, isStatus c = false := fun c hc => hdata c (List.mem_cons_of_mem _ hc)
      have hopen : Encoder.Opens (Encoder.Mode.mk none true).inSysex b :=
        .inr ⟨rfl, hdata b (List.mem_cons_self ..)⟩
      obtain ⟨piece, more, mode', rfl, hnext, hpiece⟩ :=
        next_prefix capacity hopen (.inr rfl) hleft htail
      rcases hpiece with ⟨k, rfl, rfl⟩ | ⟨rfl, rfl⟩
      · exact ⟨_, more, _, _, _, rfl, List.cons_ne_nil _ _, hnext, .middle k hdata, rfl,
          fun c hc => hleft c (List.mem_of_mem_drop hc), hrest, hps⟩
      · exact ⟨_, more, _, _, _, rfl, List.cons_ne_nil _ _, hnext, .closing hdata, rfl,
          runsVoice_none, hrest, hps⟩

end Cursor

end PatchBay
