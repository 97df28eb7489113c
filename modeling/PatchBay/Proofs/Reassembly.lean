import Mathlib.Tactic.SplitIfs
import PatchBay.Assembler

/-!
# What one fragment does to an assembler

Each part of an assembler after a fragment, as a function of the assembler before it. What is handed
to the sink does not depend on the sink, so a run can be followed by the list of messages that it
hands over, `handed`, whatever the sink makes of them.
-/

namespace PatchBay

namespace Filter

variable {f g : Filter} {c : Bool} {x : Bytes}

/-! ## Decisions -/

theorem apply_nil (f : Filter) (c : Bool) : f.apply c [] = (⟨.message, false, false⟩, c) := rfl

/-- Whether a SysEx is in progress after a fragment that starts with `first`. -/
def continuingWith (c : Bool) (first : UInt8) (rest : Bytes) : Bool :=
  continuingAfter (classify c first) ((first :: rest).getLast (List.cons_ne_nil _ _)) c

theorem apply_cons (f : Filter) (c : Bool) (first : UInt8) (rest : Bytes) :
    f.apply c (first :: rest) =
      (f.verdict (classify c first) (continuingWith c first rest),
        continuingWith c first rest) := by
  unfold apply
  rw [List.head?_cons, List.getLast?_eq_some_getLast (List.cons_ne_nil first rest)]
  rfl

/-- Whether a SysEx is in progress is tracked alike by all filters. -/
theorem apply_continuing (f g : Filter) (c : Bool) (x : Bytes) :
    (f.apply c x).2 = (g.apply c x).2 := by
  cases x with
  | nil => rfl
  | cons first rest => rw [apply_cons, apply_cons]

theorem apply_kind (f g : Filter) (c : Bool) (x : Bytes) :
    (f.apply c x).1.kind = (g.apply c x).1.kind := by
  cases x with
  | nil => rfl
  | cons first rest => rw [apply_cons, apply_cons]; rfl

/-- A message is complete when a fragment joins it and no SysEx is in progress any more. -/
theorem apply_deliver (f : Filter) (c : Bool) (x : Bytes) :
    (f.apply c x).1.deliver = ((f.apply c x).1.accumulate && !(f.apply c x).2) := by
  cases x with
  | nil => rfl
  | cons first rest => rw [apply_cons]; rfl

/-- A fragment joins the message being built unless its class is ignored, or the SysEx that is in
progress after it. -/
theorem apply_accumulate (hx : x ≠ []) :
    (f.apply c x).1.accumulate =
      (!f.ignores (f.apply c x).1.kind && !((f.apply c x).2 && f.ignoreSysex)) := by
  obtain ⟨first, rest, rfl⟩ := List.exists_cons_of_ne_nil hx
  rw [apply_cons]
  rfl

theorem classify_eq_sysexStart {first : UInt8} :
    classify c first = .sysexStart ↔ first = Status.sysexStart := by
  unfold classify
  split_ifs <;> simp_all

theorem apply_kind_sysexStart (f : Filter) (c : Bool) (x : Bytes) :
    (f.apply c x).1.kind = .sysexStart ↔ x.head? = some Status.sysexStart := by
  cases x with
  | nil => simp [apply_nil]
  | cons first rest =>
    rw [apply_cons, List.head?_cons, Option.some_inj]
    exact classify_eq_sysexStart

/-- Only a fragment that opens a SysEx puts one in progress. -/
theorem kind_of_apply_opens (h : (f.apply false x).2 = true) :
    (f.apply false x).1.kind = .sysexStart := by
  cases x with
  | nil => cases h
  | cons first rest =>
    rw [apply_cons] at h ⊢
    simp only [continuingWith, continuingAfter, classify, verdict] at h ⊢
    split_ifs at h ⊢ <;> simp_all [FragmentClass.isSysex]

/-- Only a fragment that belongs to a SysEx by its own right ends one. -/
theorem isSysex_of_apply_closes (h : (f.apply true x).2 = false) :
    (f.apply true x).1.kind.isSysex = true := by
  cases x with
  | nil => cases h
  | cons first rest =>
    rw [apply_cons] at h ⊢
    simp only [continuingWith, continuingAfter] at h
    split at h
    · assumption
    · cases h

theorem ignores_of_isSysex {k : FragmentClass} (h : k.isSysex = true) :
    f.ignores k = f.ignoreSysex := by
  cases k with
  | sysexStart | sysexContinuation => rfl
  | timing | sensing | message => cases h

end Filter

namespace Sink

/-- The messages in a sink of which nobody has taken account yet, the oldest first. -/
def contents : Sink → List Message
  | .callback handed => handed
  | .queue _ waiting _ => waiting

/-- Hands over messages in order. -/
def deliverAll (s : Sink) (messages : List Message) : Sink :=
  messages.foldl (fun s m => (s.deliver m).2) s

@[simp] theorem deliverAll_nil (s : Sink) : s.deliverAll [] = s := rfl

@[simp] theorem deliverAll_cons (s : Sink) (m : Message) (messages : List Message) :
    s.deliverAll (m :: messages) = (s.deliver m).2.deliverAll messages := rfl

theorem deliverAll_append (s : Sink) (first second : List Message) :
    s.deliverAll (first ++ second) = (s.deliverAll first).deliverAll second :=
  List.foldl_append

theorem deliverAll_callback (handed messages : List Message) :
    (Sink.callback handed).deliverAll messages = .callback (handed ++ messages) := by
  induction messages generalizing handed with
  | nil => simp
  | cons m rest ih => simp [deliver, ih]

end Sink

namespace Assembler

variable {a b : Assembler} {e : RawEvent}

/-! ## One fragment -/

/-- What the filter makes of a fragment that arrives now, and whether a SysEx is in progress after
it. -/
def judge (a : Assembler) (fragment : Bytes) : Decision × Bool :=
  a.filter.apply a.continuing fragment

/-- The bytes of the message being built after a fragment arrived. -/
def gathered (a : Assembler) (fragment : Bytes) : Bytes :=
  (if a.continuing then a.draft.bytes else []) ++
    if (a.judge fragment).1.accumulate then fragment else []

theorem judge_deliver (a : Assembler) (x : Bytes) :
    (a.judge x).1.deliver = ((a.judge x).1.accumulate && !(a.judge x).2) :=
  Filter.apply_deliver _ _ _

theorem judge_accumulate (a : Assembler) {x : Bytes} (hx : x ≠ []) :
    (a.judge x).1.accumulate =
      (!a.filter.ignores (a.judge x).1.kind && !((a.judge x).2 && a.filter.ignoreSysex)) :=
  Filter.apply_accumulate hx

/-- The message that a fragment completes. -/
def emitted? (a : Assembler) (e : RawEvent) : Option Message :=
  if (a.judge e.fragment).1.deliver then
    some ⟨(a.stamper.stamp e.time).1, a.gathered e.fragment⟩
  else none

/-- The counters after a fragment that is not empty, before its message is handed over. -/
def tally (a : Assembler) (fragment : Bytes) : Counters :=
  countRestarted (countSuppressed a.counters (a.judge fragment).1) a.continuing (a.judge fragment).1

theorem process_nil (h : e.fragment = []) :
    a.process e =
      { a with
        stamper := (a.stamper.stamp e.time).2
        counters := { a.counters with dropped := a.counters.dropped + 1 } } := by
  simp [process, h]

theorem gathered_draft (a : Assembler) (fragment : Bytes) :
    (if (a.judge fragment).1.accumulate then
      (if a.continuing then a.draft else a.draft.clear).append fragment
      else if a.continuing then a.draft else a.draft.clear) = ⟨a.gathered fragment⟩ := by
  unfold gathered
  cases a.continuing <;> cases (a.judge fragment).1.accumulate <;>
    simp [Draft.append, Draft.clear]

theorem process_held (h : e.fragment ≠ []) (hd : (a.judge e.fragment).1.deliver = false) :
    a.process e =
      { a with
        stamper := (a.stamper.stamp e.time).2
        continuing := (a.judge e.fragment).2
        counters := a.tally e.fragment
        draft := ⟨a.gathered e.fragment⟩ } := by
  rw [← gathered_draft]
  unfold judge at hd
  simp only [process, h, if_false, hd, judge, tally]
  rfl

theorem process_complete (h : e.fragment ≠ []) (hd : (a.judge e.fragment).1.deliver = true) :
    a.process e =
      { a with
        stamper := (a.stamper.stamp e.time).2
        continuing := (a.judge e.fragment).2
        counters := a.tally e.fragment
        draft := {} }.emit ⟨(a.stamper.stamp e.time).1, a.gathered e.fragment⟩ := by
  have hg := gathered_draft a e.fragment
  unfold judge at hd hg
  simp only [process, h, if_false, hd, if_true, hg, judge, tally]
  rfl

theorem judge_deliver_nil (a : Assembler) : (a.judge []).1.deliver = false := rfl

@[simp] theorem process_filter (a : Assembler) (e : RawEvent) :
    (a.process e).filter = a.filter := by
  by_cases h : e.fragment = []
  · rw [process_nil h]
  · cases hd : (a.judge e.fragment).1.deliver
    · rw [process_held h hd]
    · rw [process_complete h hd]; rfl

theorem process_continuing (a : Assembler) (e : RawEvent) :
    (a.process e).continuing = (a.judge e.fragment).2 := by
  by_cases h : e.fragment = []
  · rw [process_nil h, h]; rfl
  · cases hd : (a.judge e.fragment).1.deliver
    · rw [process_held h hd]
    · rw [process_complete h hd]; rfl

theorem process_draft (h : e.fragment ≠ []) :
    (a.process e).draft =
      ⟨if (a.judge e.fragment).1.deliver then [] else a.gathered e.fragment⟩ := by
  cases hd : (a.judge e.fragment).1.deliver
  · rw [process_held h hd]; rfl
  · rw [process_complete h hd]; rfl

/-- What is handed to the sink is the message that the fragment completes, if it does. -/
theorem process_sink (a : Assembler) (e : RawEvent) :
    (a.process e).sink = a.sink.deliverAll (a.emitted? e).toList := by
  unfold emitted?
  cases hd : (a.judge e.fragment).1.deliver
  · by_cases h : e.fragment = []
    · rw [process_nil h]; rfl
    · rw [process_held h hd]; rfl
  · have h : e.fragment ≠ [] := fun h => by rw [h, judge_deliver_nil] at hd; cases hd
    rw [process_complete h hd]; rfl

theorem process_stamper (a : Assembler) (e : RawEvent) :
    (a.process e).stamper =
      if (a.judge e.fragment).1.deliver then (a.stamper.stamp e.time).2.markDelivered
      else (a.stamper.stamp e.time).2 := by
  cases hd : (a.judge e.fragment).1.deliver
  · by_cases h : e.fragment = []
    · rw [process_nil h]; rfl
    · rw [process_held h hd]; rfl
  · have h : e.fragment ≠ [] := fun h => by rw [h, judge_deliver_nil] at hd; cases hd
    rw [process_complete h hd]; rfl

theorem emit_suppressed (a : Assembler) (m : Message) :
    (a.emit m).counters.suppressed = a.counters.suppressed := by
  simp only [emit]
  split <;> rfl

theorem emit_restarted (a : Assembler) (m : Message) :
    (a.emit m).counters.restarted = a.counters.restarted := by
  simp only [emit]
  split <;> rfl

theorem process_suppressed (h : e.fragment ≠ []) :
    (a.process e).counters.suppressed =
      if (a.judge e.fragment).1.accumulate then a.counters.suppressed
      else a.counters.suppressed + 1 := by
  have ht : (a.tally e.fragment).suppressed =
      if (a.judge e.fragment).1.accumulate then a.counters.suppressed
      else a.counters.suppressed + 1 := by
    unfold tally countRestarted countSuppressed Decision.isSuppressed
    cases (a.judge e.fragment).1.accumulate <;> split <;> rfl
  cases hd : (a.judge e.fragment).1.deliver
  · rw [process_held h hd]; exact ht
  · rw [process_complete h hd, emit_suppressed]; exact ht

theorem process_restarted (a : Assembler) (e : RawEvent) :
    (a.process e).counters.restarted =
      if a.continuing && (a.judge e.fragment).1.kind == .sysexStart then a.counters.restarted + 1
      else a.counters.restarted := by
  have ht : (a.tally e.fragment).restarted =
      if a.continuing && (a.judge e.fragment).1.kind == .sysexStart then a.counters.restarted + 1
      else a.counters.restarted := by
    unfold tally countRestarted countSuppressed
    split <;> split <;> rfl
  by_cases h : e.fragment = []
  · rw [process_nil h, h, if_neg (by simp [judge, Filter.apply_nil])]
  · cases hd : (a.judge e.fragment).1.deliver
    · rw [process_held h hd]; exact ht
    · rw [process_complete h hd, emit_restarted]; exact ht

/-! ## Runs -/

@[simp] theorem processAll_nil (a : Assembler) : a.processAll [] = a := rfl

@[simp] theorem processAll_cons (a : Assembler) (e : RawEvent) (es : List RawEvent) :
    a.processAll (e :: es) = (a.process e).processAll es := rfl

theorem processAll_append (a : Assembler) (first second : List RawEvent) :
    a.processAll (first ++ second) = (a.processAll first).processAll second :=
  List.foldl_append

theorem processAll_filter (a : Assembler) (es : List RawEvent) :
    (a.processAll es).filter = a.filter := by
  induction es generalizing a with
  | nil => rfl
  | cons e es ih => rw [processAll_cons, ih, process_filter]

/-- The messages that an assembler hands to its sink, whether the sink takes them or not. -/
def handed (a : Assembler) : List RawEvent → List Message
  | [] => []
  | e :: es => (a.emitted? e).toList ++ handed (a.process e) es

theorem handed_append (a : Assembler) (first second : List RawEvent) :
    a.handed (first ++ second) = a.handed first ++ (a.processAll first).handed second := by
  induction first generalizing a with
  | nil => rfl
  | cons e es ih => simp [handed, ih]

/-- The sink is given the messages of `handed`, in order and nothing else. -/
theorem processAll_sink (a : Assembler) (es : List RawEvent) :
    (a.processAll es).sink = a.sink.deliverAll (a.handed es) := by
  induction es generalizing a with
  | nil => rfl
  | cons e es ih => rw [processAll_cons, ih, process_sink, handed, Sink.deliverAll_append]

/-! ## The draft -/

/-- The invariant of the draft between two fragments: nothing is held back unless a SysEx is in
progress that is not ignored, and then what is held back starts as a SysEx does. -/
structure DraftInv (a : Assembler) : Prop where
  empty : a.continuing = false ∨ a.filter.ignoreSysex = true → a.draft.bytes = []
  starts : a.continuing = true → a.filter.ignoreSysex = false →
    a.draft.bytes.head? = some Status.sysexStart

theorem draftInv_fresh (f : Filter) (s : Sink) : DraftInv { filter := f, sink := s } :=
  ⟨fun _ => rfl, fun h => by cases h⟩

/-- A fragment that ends a SysEx, or arrives inside an ignored one, leaves nothing in the draft. -/
theorem DraftInv.process_empty (h : a.DraftInv) (hx : e.fragment ≠ [])
    (hc : (a.judge e.fragment).2 = false ∨ a.filter.ignoreSysex = true) :
    (a.process e).draft.bytes = [] := by
  rw [process_draft hx]
  have hdel := a.judge_deliver e.fragment
  have hacc := a.judge_accumulate hx
  cases hd : (a.judge e.fragment).1.deliver
  · -- what is not delivered now is not kept either, so only an old draft could be left
    have hkeep : (a.judge e.fragment).1.accumulate = false := by
      rcases hc with hc | hc <;> simp_all
    unfold gathered
    cases hcont : a.continuing
    · simp [hkeep]
    · have hign : a.filter.ignoreSysex = true := by
        rcases hc with hc | hc
        · have hs : (a.judge e.fragment).1.kind.isSysex = true := by
            unfold judge at hc ⊢
            rw [hcont] at hc ⊢
            exact Filter.isSysex_of_apply_closes hc
          rw [hkeep, Filter.ignores_of_isSysex hs, hc] at hacc
          simpa using hacc
        · exact hc
      simp [hkeep, h.empty (Or.inr hign)]
  · rfl

theorem DraftInv.process (h : a.DraftInv) (e : RawEvent) : (a.process e).DraftInv := by
  by_cases hx : e.fragment = []
  · rw [process_nil hx]
    exact ⟨h.empty, h.starts⟩
  refine ⟨fun hc => ?_, fun hc hi => ?_⟩
  · rw [process_continuing, process_filter] at hc
    exact h.process_empty hx hc
  · rw [process_continuing] at hc
    rw [process_filter] at hi
    rw [process_draft hx, judge_deliver]
    unfold gathered judge
    unfold judge at hc
    simp only [hc, Bool.not_true, Bool.and_false, Bool.false_eq_true, if_false]
    cases hcont : a.continuing
    · rw [hcont] at hc
      have hk := Filter.kind_of_apply_opens hc
      have hacc : (a.filter.apply false e.fragment).1.accumulate = true := by
        rw [Filter.apply_accumulate hx, hk, hi]
        simp [Filter.ignores, hi]
      simpa [hacc] using (Filter.apply_kind_sysexStart _ _ _).mp hk
    · simp [h.starts hcont hi]

theorem DraftInv.processAll (h : a.DraftInv) (es : List RawEvent) : (a.processAll es).DraftInv := by
  induction es generalizing a with
  | nil => exact h
  | cons e es ih => exact ih (h.process e)

end Assembler

end PatchBay
