import PatchBay.Proofs.Encoding

/-!
# The encoder reads its grammar

`encodeAll` takes event after event. Of a stream it uses up exactly the phrases that the grammar
reads from its front, each as one event or, for a SysEx, as pieces of it, and it fails where the
grammar is stuck.
-/

namespace PatchBay

namespace Encoder

/-! ## What a call is told about -/

def Round.consumed (round : Round) : Nat :=
  match round.result with
  | .ok n => n
  | .error _ => 0

/-- How many bytes a sequence of calls used up. -/
def consumed : List Round → Nat
  | [] => 0
  | round :: rounds => round.consumed + consumed rounds

/-- A call used up some bytes, one at least, and made an event of them. -/
structure Round.Took (round : Round) (piece event : Bytes) : Prop where
  result_eq : round.result = .ok piece.length
  event_eq : round.after.event = event
  piece_ne : piece ≠ []

/-- Calls that take some bytes piece by piece, each piece an event that fits the capacity. -/
def Tiles (capacity : Nat) : Bytes → List Round → Prop
  | bytes, [] => bytes = []
  | bytes, round :: rounds => ∃ piece rest, bytes = piece ++ rest ∧ round.Took piece piece ∧
      piece.length ≤ capacity ∧ Tiles capacity rest rounds

/-- Calls that take a phrase. Only the event of a group is more than the bytes it was made of. -/
def Tells (capacity : Nat) (rounds : List Round) : Phrase → Prop
  | .message status data => ∃ round, rounds = [round] ∧ round.Took (status :: data) (status :: data)
  | .group status data => ∃ round, rounds = [round] ∧ round.Took data (status :: data)
  | .sysex body closed => Tiles capacity (Phrase.sysex body closed).bytes rounds

/-- Calls that take phrase after phrase. -/
def Segments (capacity : Nat) : List Phrase → List Round → Prop
  | [], rounds => rounds = []
  | p :: ps, rounds => ∃ told more, rounds = told ++ more ∧ Tells capacity told p ∧
      Segments capacity ps more

@[simp] theorem consumed_nil : consumed [] = 0 := rfl

@[simp] theorem consumed_cons (round : Round) (rounds : List Round) :
    consumed (round :: rounds) = round.consumed + consumed rounds := rfl

@[simp] theorem consumed_append (rounds more : List Round) :
    consumed (rounds ++ more) = consumed rounds + consumed more := by
  induction rounds with
  | nil => rw [List.nil_append, consumed_nil, Nat.zero_add]
  | cons round rounds ih => rw [List.cons_append, consumed_cons, consumed_cons, ih, Nat.add_assoc]

theorem Round.Took.consumed_eq {round : Round} {piece event : Bytes} (h : round.Took piece event) :
    round.consumed = piece.length := by
  rw [Round.consumed, h.result_eq]

theorem Tiles.consumed_eq {capacity : Nat} {bytes : Bytes} {rounds : List Round}
    (h : Tiles capacity bytes rounds) : consumed rounds = bytes.length := by
  induction rounds generalizing bytes with
  | nil => rw [show bytes = [] from h]; rfl
  | cons round rounds ih =>
    obtain ⟨piece, rest, rfl, htook, -, hrest⟩ := h
    rw [consumed_cons, htook.consumed_eq, ih hrest, List.length_append]

theorem Tells.consumed_eq {capacity : Nat} {rounds : List Round} {p : Phrase}
    (h : Tells capacity rounds p) : consumed rounds = p.bytes.length := by
  cases p with
  | message status data =>
    obtain ⟨round, rfl, htook⟩ := h
    exact htook.consumed_eq
  | group status data =>
    obtain ⟨round, rfl, htook⟩ := h
    exact htook.consumed_eq
  | sysex body closed => exact Tiles.consumed_eq h

theorem Segments.consumed_eq {capacity : Nat} {ps : List Phrase} {rounds : List Round}
    (h : Segments capacity ps rounds) : consumed rounds = (spelling ps).length := by
  induction ps generalizing rounds with
  | nil => rw [show rounds = [] from h]; rfl
  | cons p ps ih =>
    obtain ⟨told, more, rfl, htold, hmore⟩ := h
    rw [consumed_append, htold.consumed_eq, ih hmore, spelling_cons, List.length_append]

/-! ## One call -/

@[simp] theorem encodeAll_nil (e : Encoder) : e.encodeAll [] = ([], e) := by
  rw [encodeAll, if_pos rfl]

theorem encodeAll_ok {e after : Encoder} {bytes : Bytes} {n : Nat}
    (h : e.encode bytes = (.ok n, after)) :
    e.encodeAll bytes = (⟨.ok n, after⟩ :: (after.encodeAll (bytes.drop n)).1,
      (after.encodeAll (bytes.drop n)).2) := by
  obtain ⟨hpos, hle⟩ := encode_consumed h
  have hne : bytes ≠ [] := List.ne_nil_of_length_pos (by omega)
  rw [encodeAll, if_neg hne]
  split
  · rename_i heq
    rw [h] at heq
    cases heq
  · rename_i heq
    rw [h] at heq
    cases heq
    rfl

theorem encodeAll_error {e after : Encoder} {bytes : Bytes} {err : EncodeError}
    (hne : bytes ≠ []) (h : e.encode bytes = (.error err, after)) :
    e.encodeAll bytes = ([⟨.error err, after⟩], after) := by
  rw [encodeAll, if_neg hne]
  split
  · rename_i heq
    rw [h] at heq
    cases heq
    rfl
  · rename_i heq
    rw [h] at heq
    cases heq

/-- Encoding starts with some calls and goes on with the rest of the bytes. -/
structure Leads (e : Encoder) (bytes : Bytes) (told : List Round) (after : Encoder)
    (rest : Bytes) : Prop where
  encodeAll_eq : e.encodeAll bytes =
    (told ++ (after.encodeAll rest).1, (after.encodeAll rest).2)
  capacity_eq : after.capacity = e.capacity

theorem Leads.refl (e : Encoder) (bytes : Bytes) : Leads e bytes [] e bytes := ⟨rfl, rfl⟩

theorem Leads.trans {e middle after : Encoder} {bytes rest more : Bytes} {told later : List Round}
    (h : Leads e bytes told middle rest) (h' : Leads middle rest later after more) :
    Leads e bytes (told ++ later) after more := by
  refine ⟨?_, h'.capacity_eq.trans h.capacity_eq⟩
  rw [h.encodeAll_eq, h'.encodeAll_eq, List.append_assoc]

theorem leads_of_next {e : Encoder} {piece rest event : Bytes} {mode : Mode}
    (h : next e.capacity e.mode (piece ++ rest) = (.ok ⟨piece.length, event⟩, mode)) :
    Leads e (piece ++ rest) [⟨.ok piece.length, { e with event, mode }⟩] { e with event, mode }
      rest := by
  have henc : e.encode (piece ++ rest) = (.ok piece.length, { e with event, mode }) := by
    rw [encode, h]
  refine ⟨?_, rfl⟩
  rw [encodeAll_ok henc, List.drop_left]
  rfl

/-! ## The calls for one phrase -/

variable {e : Encoder} {body rest : Bytes} {closed : Bool} {running : Option UInt8}

/-- One piece of a SysEx: it stays open with less of its body to come, or it is over. -/
theorem leads_piece {first : UInt8} (hopen : Opens e.mode.inSysex first)
    (hrun : first = Status.sysexStart ∨ e.mode.running = none)
    (hbody : ∀ b ∈ body, isBody b = true) (hrest : closed = false → Breaks rest) :
    ∃ piece left round, first :: sysexTail body closed = piece ++ left ∧
      round.Took piece piece ∧ piece.length ≤ e.capacity ∧
      Leads e (first :: sysexTail body closed ++ rest) [round] round.after (left ++ rest) ∧
      ((∃ k, left = sysexTail (body.drop k) closed ∧ round.after.mode = ⟨none, true⟩) ∨
        left = [] ∧ round.after.mode = ⟨none, false⟩) := by
  have hpos := e.capacity_pos
  rcases next_sysex e.capacity hopen hrun hbody hrest with
    ⟨k, hk, hroom, hnext⟩ | ⟨-, hroom, hnext⟩
  · have hlen : (first :: body.take k).length = k + 1 := by
      rw [List.length_cons, List.length_take_of_le hk]
    have hsplit : first :: sysexTail body closed =
        (first :: body.take k) ++ sysexTail (body.drop k) closed := by
      rw [List.cons_append, ← sysexTail_split]
    rw [hsplit, List.append_assoc, ← hlen] at hnext
    have hlead := leads_of_next hnext
    rw [← List.append_assoc, ← hsplit] at hlead
    exact ⟨first :: body.take k, _, _, hsplit, ⟨rfl, rfl, List.cons_ne_nil _ _⟩, by
      rw [hlen]; omega, hlead, .inl ⟨k, rfl, rfl⟩⟩
  · exact ⟨first :: sysexTail body closed, [], _, (List.append_nil _).symm,
      ⟨rfl, rfl, List.cons_ne_nil _ _⟩, by rw [List.length_cons]; omega, leads_of_next hnext,
      .inr ⟨rfl, rfl⟩⟩

/-- What is left of an open SysEx is taken piece by piece. -/
theorem leads_tail (hmode : e.mode = ⟨none, true⟩) (hbody : ∀ b ∈ body, isBody b = true)
    (hrest : closed = false → Breaks rest) :
    ∃ told after, Leads e (sysexTail body closed ++ rest) told after rest ∧
      Tiles e.capacity (sysexTail body closed) told ∧ Fits none rest after.mode := by
  induction hn : body.length using Nat.strongRecOn generalizing e body with
  | ind n ih =>
    subst hn
    cases body with
    | nil =>
      cases closed with
      | true =>
        have hnext : next e.capacity e.mode ([Status.sysexEnd] ++ rest) = _ :=
          next_end (by rw [hmode])
        have hlead := leads_of_next hnext
        refine ⟨_, _, hlead, ⟨[Status.sysexEnd], [], rfl, ⟨rfl, rfl, List.cons_ne_nil _ _⟩,
          e.capacity_pos, rfl⟩, ?_⟩
        rw [hmode]
        exact .of_closed runsVoice_none
      | false =>
        refine ⟨[], e, .refl e _, rfl, ?_⟩
        rw [hmode]
        exact .of_breaks true (hrest rfl)
    | cons b body =>
      have hbody' : ∀ c ∈ body, isBody c = true :=
        fun c hc => hbody c (List.mem_cons_of_mem _ hc)
      -- a real-time byte in front is a piece of its own, a data byte starts a longer one
      by_cases hr : isRealtime b = true
      · have hnext : next e.capacity e.mode ([b] ++ (sysexTail body closed ++ rest)) = _ :=
          next_realtime hr
        have hlead := leads_of_next hnext
        obtain ⟨told, after, hlead', htiles, hfits⟩ :=
          ih body.length (by simp) (e := { e with event := [b] }) hmode hbody' rfl
        exact ⟨_, after, hlead.trans hlead', ⟨[b], _, rfl, ⟨rfl, rfl, List.cons_ne_nil _ _⟩,
          e.capacity_pos, htiles⟩, hfits⟩
      · have hdata : isStatus b = false := by
          simpa [isBody, hr] using hbody b (List.mem_cons_self ..)
        obtain ⟨piece, left, round, hsplit, htook, hcap, hlead, hleft⟩ :=
          leads_piece (.inr ⟨by rw [hmode], hdata⟩) (.inr (by rw [hmode])) hbody' hrest
        rcases hleft with ⟨k, rfl, hmode'⟩ | ⟨rfl, hmode'⟩
        · obtain ⟨told, after, hlead', htiles, hfits⟩ :=
            ih (body.drop k).length (by rw [List.length_drop, List.length_cons]; omega) hmode'
              (fun c hc => hbody' c (List.mem_of_mem_drop hc)) rfl
          rw [hlead.capacity_eq] at htiles
          exact ⟨_, after, hlead.trans hlead', ⟨piece, _, hsplit, htook, hcap, htiles⟩, hfits⟩
        · refine ⟨_, _, hlead, ⟨piece, [], hsplit, htook, hcap, rfl⟩, ?_⟩
          rw [hmode']
          exact .of_closed runsVoice_none

/-- A phrase is taken as it stands, whatever follows it. -/
theorem leads_phrase {p : Phrase} (hm : Fits running (p.bytes ++ rest) e.mode)
    (hp : p.Formed running rest) :
    ∃ told after, Leads e (p.bytes ++ rest) told after rest ∧ Tells e.capacity told p ∧
      Fits (p.after running) rest after.mode := by
  have hafter := hp.after_runsVoice hm.voice
  cases p with
  | message status data =>
    obtain ⟨hcount, hd⟩ := hp
    refine ⟨_, _, leads_of_next (next_message hcount hd), ⟨_, rfl, rfl, rfl, List.cons_ne_nil _ _⟩,
      ?_⟩
    simp only [Phrase.after] at hafter ⊢
    split
    · rename_i hr
      have hsx := hm.not_open (by simp [isBody, hr])
      have hmode : e.mode = ⟨running, false⟩ := by
        rw [← hsx, ← hm.running_eq]
      rw [hmode]
      exact .of_closed hm.voice
    · rename_i hr
      rw [if_neg hr] at hafter
      exact .of_closed hafter
  | group status data =>
    obtain ⟨rfl, hcount, hd⟩ := hp
    obtain ⟨first, data, rfl⟩ := List.exists_cons_of_ne_nil
      (List.ne_nil_of_length_pos (dataCount_pos (hm.voice status rfl) hcount))
    have hsx := hm.not_open (by simp [isBody, hd first (List.mem_cons_self ..)])
    have hmode : e.mode = ⟨some status, false⟩ := by
      rw [← hsx, ← hm.running_eq]
    refine ⟨_, _, leads_of_next (next_group hm.running_eq hsx (hm.voice status rfl) hcount hd),
      ⟨_, rfl, rfl, rfl, List.cons_ne_nil _ _⟩, ?_⟩
    rw [hmode]
    exact .of_closed hafter
  | sysex body closed =>
    obtain ⟨hbody, hrest⟩ := hp
    obtain ⟨piece, left, round, hsplit, htook, hcap, hlead, hleft⟩ :=
      leads_piece (e := e) (.inl rfl) (.inl rfl) hbody hrest
    rcases hleft with ⟨k, rfl, hmode'⟩ | ⟨rfl, hmode'⟩
    · obtain ⟨told, after, hlead', htiles, hfits⟩ :=
        leads_tail hmode' (fun b hb => hbody b (List.mem_of_mem_drop hb)) hrest
      rw [hlead.capacity_eq] at htiles
      exact ⟨_, after, hlead.trans hlead', ⟨piece, _, hsplit, htook, hcap, htiles⟩, hfits⟩
    · refine ⟨_, _, hlead, ⟨piece, [], hsplit, htook, hcap, rfl⟩, ?_⟩
      rw [hmode']
      exact .of_closed runsVoice_none

/-- Where no phrase can be formed there is an error. -/
theorem encodeAll_stuck (hm : Fits running rest e.mode) (hne : rest ≠ [])
    (h : ∀ (p : Phrase) (tail : Bytes), rest = p.bytes ++ tail → ¬ p.Formed running tail) :
    ∃ err after, (e.encodeAll rest).1 = [⟨.error err, after⟩] := by
  cases hnext : next e.capacity e.mode rest with
  | mk result mode =>
    cases result with
    | ok event =>
      obtain ⟨p, tail, heq, hp⟩ := phrase_of_next hm hnext
      exact absurd hp (h p tail heq)
    | error err =>
      have henc : e.encode rest = (.error err, { e with event := [], mode }) := by
        rw [encode, hnext]
      exact ⟨err, _, by rw [encodeAll_error hne henc]⟩

/-! ## The calls for a stream -/

/-- The phrases of a reading are taken one after the other, and then comes an error if something is
left. -/
theorem encodeAll_reading {stream stuck : Bytes} {ps : List Phrase}
    (hread : Reading running stream ps stuck) (hm : Fits running stream e.mode) :
    ∃ told failure, (e.encodeAll stream).1 = told ++ failure ∧ Segments e.capacity ps told ∧
      (stuck = [] → failure = []) ∧
      (stuck ≠ [] → ∃ err after, failure = [⟨.error err, after⟩]) := by
  induction ps generalizing running stream e with
  | nil =>
    obtain ⟨rfl, -, hends⟩ := hread
    refine ⟨[], (e.encodeAll _).1, rfl, rfl, ?_, fun hne => ?_⟩
    · rintro rfl
      rw [encodeAll_nil]
    · exact encodeAll_stuck hm hne (hends hne)
  | cons p ps ih =>
    obtain ⟨rfl, ⟨hp, hps⟩, hends⟩ := hread
    rw [spelling_cons, List.append_assoc] at hm
    obtain ⟨first, after, hlead, hfirst, hm'⟩ := leads_phrase hm hp
    obtain ⟨told, failure, hrounds, htold, hfailure⟩ := ih ⟨rfl, hps, hends⟩ hm'
    refine ⟨first ++ told, failure, ?_, ⟨first, told, rfl, hfirst, ?_⟩, hfailure⟩
    · rw [spelling_cons, List.append_assoc, hlead.encodeAll_eq, hrounds, List.append_assoc]
    · rwa [hlead.capacity_eq] at htold

/-- No call uses up more bytes than the calls before it left. -/
theorem consumed_le_length {stream : Bytes} {before later : List Round} {n : Nat} {after : Encoder}
    (h : (e.encodeAll stream).1 = before ++ ⟨.ok n, after⟩ :: later) :
    1 ≤ n ∧ consumed before + n ≤ stream.length := by
  induction hn : stream.length using Nat.strongRecOn generalizing e stream before with
  | ind m ih =>
    subst hn
    have hne : stream ≠ [] := by
      rintro rfl
      simp at h
    cases henc : e.encode stream with
    | mk result next =>
      cases result with
      | error err =>
        rw [encodeAll_error hne henc] at h
        cases before with
        | nil => cases h
        | cons round before => simp at h
      | ok k =>
        obtain ⟨hpos, hle⟩ := encode_consumed henc
        rw [encodeAll_ok henc] at h
        cases before with
        | nil =>
          cases h
          exact ⟨hpos, by simpa using hle⟩
        | cons round before =>
          obtain ⟨rfl, hmore⟩ := List.cons.inj h
          have hlen : (stream.drop k).length = stream.length - k := List.length_drop
          obtain ⟨hn, hrest⟩ := ih _ (by rw [hlen]; omega) hmore rfl
          refine ⟨hn, ?_⟩
          rw [consumed_cons]
          simp only [Round.consumed]
          omega

/-- **The encoder accepts its grammar and nothing else.** From a fresh start it uses up a stream
completely exactly if the stream is a sequence of phrases. Any stream can be read as phrases with
something stuck behind them that is no phrase, and however that is done, the calls take the phrases
one by one and stop with an error where the stuck bytes start. Each call takes one byte at least
and no more than there are. -/
theorem encodeAll_segments (e : Encoder) (stream : Bytes) :
    let rounds := (e.reset.encodeAll stream).1
    (consumed rounds = stream.length ↔ ∃ ps, Sentence none ps [] ∧ stream = spelling ps) ∧
    (∃ ps stuck, Reading none stream ps stuck) ∧
    (∀ ps stuck, Reading none stream ps stuck →
      ∃ told failure, rounds = told ++ failure ∧ Segments e.capacity ps told ∧
        consumed rounds = (spelling ps).length ∧
        (stuck = [] → failure = []) ∧
        (stuck ≠ [] → ∃ err after, failure = [⟨.error err, after⟩])) ∧
    (∀ before n after later, rounds = before ++ ⟨.ok n, after⟩ :: later →
      1 ≤ n ∧ consumed before + n ≤ stream.length) := by
  intro rounds
  have hm : Fits none stream e.reset.mode := .of_closed runsVoice_none
  have hreads : ∀ ps stuck, Reading none stream ps stuck →
      ∃ told failure, rounds = told ++ failure ∧ Segments e.capacity ps told ∧
        consumed rounds = (spelling ps).length ∧ (stuck = [] → failure = []) ∧
        (stuck ≠ [] → ∃ err after, failure = [⟨.error err, after⟩]) := by
    intro ps stuck hread
    obtain ⟨told, failure, hrounds, htold, hdone, hfail⟩ := encodeAll_reading hread hm
    have hzero : consumed failure = 0 := by
      by_cases hs : stuck = []
      · rw [hdone hs, consumed_nil]
      · obtain ⟨err, after, rfl⟩ := hfail hs
        rfl
    refine ⟨told, failure, hrounds, htold, ?_, hdone, hfail⟩
    rw [show rounds = told ++ failure from hrounds, consumed_append, hzero, htold.consumed_eq,
      Nat.add_zero]
  refine ⟨⟨fun hall => ?_, ?_⟩, exists_reading none stream runsVoice_none, hreads,
    fun before n after later h => consumed_le_length h⟩
  · obtain ⟨ps, stuck, hread⟩ := exists_reading none stream runsVoice_none
    obtain ⟨-, -, -, -, hused, -⟩ := hreads ps stuck hread
    have hlen := congrArg List.length hread.spells
    rw [List.length_append] at hlen
    have hstuck : stuck = [] := List.length_eq_zero_iff.mp (by omega)
    subst hstuck
    exact ⟨ps, hread.sentence, by rw [hread.spells, List.append_nil]⟩
  · rintro ⟨ps, hps, rfl⟩
    have hread : Reading none (spelling ps) ps [] :=
      ⟨(List.append_nil _).symm, hps, fun h => absurd rfl h⟩
    obtain ⟨-, -, -, -, hused, -⟩ := hreads ps [] hread
    exact hused

end Encoder

end PatchBay
