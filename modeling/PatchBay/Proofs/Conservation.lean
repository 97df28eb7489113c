import PatchBay.Proofs.Reassembly

/-!
# Reassembly neither loses nor repeats a byte

The bytes that were handed out, followed by those that are still held back, are those of the
fragments that were kept, in order of arrival. The invariant is that the draft is empty whenever the
next fragment would have it cleared.
-/

namespace PatchBay

namespace Assembler

variable {a b : Assembler} {e : RawEvent}

/-! ## What has no influence

Neither the sink nor the counters nor the opening of the gate have a part in what is handed over. -/

/-- Two assemblers that have come equally far, though their sinks and counters may differ. -/
structure Agrees (a b : Assembler) : Prop where
  filter : a.filter = b.filter
  draft : a.draft = b.draft
  continuing : a.continuing = b.continuing
  stamper : a.stamper = b.stamper

theorem Agrees.refl (a : Assembler) : a.Agrees a := ⟨rfl, rfl, rfl, rfl⟩

theorem Agrees.judge (h : a.Agrees b) (x : Bytes) : a.judge x = b.judge x := by
  unfold Assembler.judge
  rw [h.filter, h.continuing]

theorem Agrees.gathered (h : a.Agrees b) (x : Bytes) : a.gathered x = b.gathered x := by
  unfold Assembler.gathered
  rw [h.judge, h.continuing, h.draft]

theorem Agrees.emitted (h : a.Agrees b) (e : RawEvent) : a.emitted? e = b.emitted? e := by
  unfold emitted?
  rw [h.judge, h.gathered, h.stamper]

theorem Agrees.process (h : a.Agrees b) (e : RawEvent) : (a.process e).Agrees (b.process e) where
  filter := by rw [process_filter, process_filter, h.filter]
  draft := by
    by_cases hx : e.fragment = []
    · rw [process_nil hx, process_nil hx]
      exact h.draft
    · rw [process_draft hx, process_draft hx, h.judge, h.gathered]
  continuing := by rw [process_continuing, process_continuing, h.judge]
  stamper := by rw [process_stamper, process_stamper, h.judge, h.stamper]

theorem Agrees.handed (h : a.Agrees b) (es : List RawEvent) : a.handed es = b.handed es := by
  induction es generalizing a b with
  | nil => rfl
  | cons e es ih => rw [Assembler.handed, Assembler.handed, h.emitted, ih (h.process e)]

theorem Agrees.processAll (h : a.Agrees b) (es : List RawEvent) :
    (a.processAll es).Agrees (b.processAll es) := by
  induction es generalizing a b with
  | nil => exact h
  | cons e es ih => exact ih (h.process e)

/-! ## Batches -/

/-- Processes batches that arrive on a port while the gate stays as it is. -/
def acceptAll (a : Assembler) (gate : Gate) (port : PortId) (batches : List (List RawEvent)) :
    Assembler :=
  batches.foldl (fun a es => a.accept gate port es) a

theorem process_withOpening (a : Assembler) (o : UInt64) (e : RawEvent) :
    process { a with opening := o } e = { a.process e with opening := o } := by
  by_cases h : e.fragment = []
  · rw [process_nil h, process_nil h]
  · cases hd : (a.judge e.fragment).1.deliver
    · have hd' : (judge { a with opening := o } e.fragment).1.deliver = false := hd
      rw [process_held h hd, process_held h hd']
      rfl
    · have hd' : (judge { a with opening := o } e.fragment).1.deliver = true := hd
      rw [process_complete h hd, process_complete h hd']
      rfl

theorem processAll_withOpening (a : Assembler) (o : UInt64) (es : List RawEvent) :
    processAll { a with opening := o } es = { a.processAll es with opening := o } := by
  induction es generalizing a with
  | nil => rfl
  | cons e es ih => rw [processAll_cons, process_withOpening, ih, processAll_cons]

/-- A batch on the gate's port is processed fragment by fragment, once the assembler has seen the
gate's opening. -/
theorem accept_seen (a : Assembler) (port : PortId) (o : UInt64) (es : List RawEvent) :
    accept { a with opening := o } ⟨some port, o⟩ port es =
      { a.processAll es with opening := o } := by
  simp [accept, notice, processAll_withOpening]

theorem acceptAll_seen (a : Assembler) (port : PortId) (o : UInt64)
    (batches : List (List RawEvent)) :
    acceptAll { a with opening := o } ⟨some port, o⟩ port batches =
      { a.processAll batches.flatten with opening := o } := by
  induction batches generalizing a with
  | nil => rfl
  | cons es batches ih =>
    rw [acceptAll, List.foldl_cons, accept_seen, List.flatten_cons, processAll_append]
    exact ih (a.processAll es)

/-- How fragments are cut into batches has no influence on a fresh assembler. -/
theorem acceptAll_fresh (f : Filter) (s : Sink) (port : PortId) (o : UInt64)
    (batches : List (List RawEvent)) :
    let all := acceptAll { filter := f, sink := s } ⟨some port, o⟩ port batches
    let flat := processAll { filter := f, sink := s } batches.flatten
    all.Agrees flat ∧ all.sink = flat.sink := by
  cases batches with
  | nil => exact ⟨.refl _, rfl⟩
  | cons es batches =>
    have hnotice : accept { filter := f, sink := s } ⟨some port, o⟩ port es =
        accept { filter := f, sink := s, opening := o } ⟨some port, o⟩ port es := by
      by_cases h : o = 0
      · rw [h]
      · simp [accept, notice, h, Draft.clear]
    have hseen := acceptAll_seen { filter := f, sink := s } port o (es :: batches)
    rw [acceptAll, List.foldl_cons] at hseen
    rw [acceptAll, List.foldl_cons, hnotice, hseen]
    exact ⟨⟨rfl, rfl, rfl, rfl⟩, rfl⟩

/-! ## Conservation -/

/-- Whether a fragment is neither empty nor counted as suppressed when it is processed. -/
def keeps (a : Assembler) (e : RawEvent) : Bool :=
  e.fragment ≠ [] && (a.process e).counters.suppressed == a.counters.suppressed

/-- The fragments of a run that are neither empty nor counted as suppressed, in order. -/
def kept (a : Assembler) : List RawEvent → List Bytes
  | [] => []
  | e :: es => (if a.keeps e then [e.fragment] else []) ++ kept (a.process e) es

theorem keeps_eq (h : e.fragment ≠ []) : a.keeps e = (a.judge e.fragment).1.accumulate := by
  unfold keeps
  rw [process_suppressed h]
  cases (a.judge e.fragment).1.accumulate <;> simp [h]

theorem DraftInv.gathered (h : a.DraftInv) (x : Bytes) :
    a.gathered x = a.draft.bytes ++ if (a.judge x).1.accumulate then x else [] := by
  unfold Assembler.gathered
  cases hc : a.continuing
  · simp [h.empty (Or.inl hc)]
  · simp

/-- What one fragment hands out and leaves in the draft is the draft before it and the fragment, if
that is kept. -/
theorem conserves_step (h : a.DraftInv) (e : RawEvent) :
    (a.emitted? e).toList.flatMap (·.bytes) ++ (a.process e).draft.bytes =
      a.draft.bytes ++ (if a.keeps e then [e.fragment] else []).flatten := by
  by_cases hx : e.fragment = []
  · rw [process_nil hx]
    simp [emitted?, hx, judge_deliver_nil, keeps]
  · rw [process_draft hx, emitted?, keeps_eq hx, h.gathered]
    cases (a.judge e.fragment).1.deliver <;> cases (a.judge e.fragment).1.accumulate <;> simp

theorem conserves_run (h : a.DraftInv) (es : List RawEvent) :
    (a.handed es).flatMap (·.bytes) ++ (a.processAll es).draft.bytes =
      a.draft.bytes ++ (a.kept es).flatten := by
  induction es generalizing a with
  | nil => simp [handed, kept]
  | cons e es ih =>
    rw [handed, kept, List.flatMap_append, List.append_assoc, processAll_cons, ih (h.process e),
      ← List.append_assoc, conserves_step h, List.flatten_append, List.append_assoc]

/-- **Reassembly conserves bytes.** A fresh assembler processes batches that arrive at an open gate.
However the fragments are cut into batches, and whatever becomes of the messages in the sink, the
sink is given exactly the messages that a callback in its place is called with; their bytes followed
by those still in the draft are the bytes of the fragments that are neither empty nor counted as
suppressed, in order; and where no SysEx is in progress, so that the next fragment has the draft
cleared, the draft is empty. -/
theorem conserves_bytes (f : Filter) (s : Sink) (port : PortId) (opening : UInt64)
    (batches : List (List RawEvent)) :
    let fresh (s : Sink) : Assembler := { filter := f, sink := s }
    let after := (fresh s).acceptAll ⟨some port, opening⟩ port batches
    let handed :=
      ((fresh (.callback [])).acceptAll ⟨some port, opening⟩ port batches).sink.contents
    after.sink = s.deliverAll handed ∧
      handed.flatMap (·.bytes) ++ after.draft.bytes = ((fresh s).kept batches.flatten).flatten ∧
      (after.continuing = false → after.draft.bytes = []) := by
  intro fresh after handed
  obtain ⟨hafter, hsink⟩ := acceptAll_fresh f s port opening batches
  have hhanded : handed = (fresh s).handed batches.flatten := by
    have hagree : (fresh (.callback [])).Agrees (fresh s) := ⟨rfl, rfl, rfl, rfl⟩
    have hwatched := (acceptAll_fresh f (.callback []) port opening batches).2
    rw [processAll_sink, Sink.deliverAll_callback, List.nil_append, hagree.handed] at hwatched
    exact congrArg Sink.contents hwatched
  have hinv := draftInv_fresh f s
  refine ⟨?_, ?_, fun hc => ?_⟩
  · rw [hhanded]
    exact hsink.trans (processAll_sink _ _)
  · rw [hafter.draft, hhanded, conserves_run hinv]
    rfl
  · rw [hafter.draft]
    rw [hafter.continuing] at hc
    exact (hinv.processAll _).empty (Or.inl hc)

end Assembler

end PatchBay
