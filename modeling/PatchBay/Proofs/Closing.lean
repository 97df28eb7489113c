import PatchBay.Proofs.Framing
import PatchBay.Proofs.Hearing

/-!
# Which closing bytes are seen

A SysEx in progress is closed by a fragment that ends with the closing byte, unless the fragment
starts with time code, a clock tick or active sensing: such a fragment is taken for an aside, and
its last byte is not looked at. Where the only closing byte stands at the end of an aside, the SysEx
stays open and what arrives later is taken for a part of it.
-/

namespace PatchBay

namespace Filter

variable {f : Filter} {c : Bool} {x : Bytes}

/-! ## Asides, openings, closings -/

/-- Whether a fragment is led by time code, a clock tick or active sensing. -/
def isAside (x : Bytes) : Bool :=
  x.head? == some Status.timeCode || x.head? == some Status.timingClock ||
    x.head? == some Status.activeSensing

/-- Whether a fragment leaves a SysEx in progress behind it that it has itself begun. -/
def opens (x : Bytes) : Bool :=
  x.head? == some Status.sysexStart && x.getLast? != some Status.sysexEnd

/-- Whether a fragment leaves no SysEx in progress behind it. -/
def closes (x : Bytes) : Bool := x.getLast? == some Status.sysexEnd && !isAside x

theorem isAside_cons {first : UInt8} {rest : Bytes} :
    isAside (first :: rest) = true ↔
      first = Status.timeCode ∨ first = Status.timingClock ∨ first = Status.activeSensing := by
  simp [isAside, or_assoc]

theorem isAside_of_mutes (h : f.mutes x = true) : isAside x = true := by
  cases x with
  | nil => simp [mutes] at h
  | cons first rest =>
    rw [isAside_cons]
    have hled : f.ignoreTiming = true ∧ (first = Status.timeCode ∨ first = Status.timingClock) ∨
        f.ignoreSensing = true ∧ first = Status.activeSensing := by
      simpa [mutes] using h
    rcases hled with ⟨-, hcode | hclock⟩ | ⟨-, hsensing⟩
    · exact .inl hcode
    · exact .inr (.inl hclock)
    · exact .inr (.inr hsensing)

/-- An aside leaves a SysEx as it is. -/
theorem apply_aside (h : isAside x = true) : (f.apply c x).2 = c := by
  refine apply_continuing_of_not_isSysex ?_
  cases x with
  | nil => rfl
  | cons first rest =>
    rw [apply_cons]
    rcases isAside_cons.mp h with rfl | rfl | rfl
    · rfl
    · rfl
    · rfl

/-- A fragment that is no aside belongs to a SysEx if it opens one or one is in progress. -/
theorem classify_isSysex {first : UInt8} {rest : Bytes} (h : isAside (first :: rest) = false) :
    (classify c first).isSysex = (first == Status.sysexStart || c) := by
  have hled : ¬ isAside (first :: rest) = true := by simp [h]
  rw [isAside_cons, not_or, not_or] at hled
  obtain ⟨hcode, hclock, hsensing⟩ := hled
  unfold classify
  by_cases hstart : first = Status.sysexStart
  · simp [hstart, FragmentClass.isSysex]
  · cases c <;> simp [hstart, hcode, hclock, hsensing, FragmentClass.isSysex]

/-- What a fragment does to the SysEx in progress, read off its first and its last byte. -/
theorem apply_continuing_eq (f : Filter) (c : Bool) (x : Bytes) :
    (f.apply c x).2 = (opens x || c && !closes x) := by
  cases x with
  | nil => simp [apply_nil, opens, closes]
  | cons first rest =>
    obtain ⟨last, hlast⟩ : ∃ last, (first :: rest).getLast? = some last :=
      ⟨_, List.getLast?_eq_some_getLast (List.cons_ne_nil first rest)⟩
    rw [opens, closes, hlast, List.head?_cons, bne, Option.some_beq_some,
      Option.some_beq_some]
    cases haside : isAside (first :: rest) with
    | true =>
      have hstart : (first == Status.sysexStart) = false := by
        rcases isAside_cons.mp haside with rfl | rfl | rfl
        · rfl
        · rfl
        · rfl
      rw [apply_aside haside, hstart]
      simp
    | false =>
      have hkind := classify_isSysex (c := c) haside
      cases hsysex : first == Status.sysexStart || c with
      | true =>
        rw [apply_sysex (hkind.trans hsysex) hlast]
        rcases Bool.or_eq_true_iff.mp hsysex with hstart | hc
        · simp [hstart, bne]
        · simp [hc, bne]
      | false =>
        obtain ⟨hstart, hc⟩ := Bool.or_eq_false_iff.mp hsysex
        have hsame : (f.apply c (first :: rest)).2 = c := by
          refine apply_continuing_of_not_isSysex ?_
          rw [apply_cons]
          exact hkind.trans hsysex
        rw [hsame, hstart, hc]
        rfl

/-- What a fragment adds to a SysEx in progress. -/
def share (f : Filter) (x : Bytes) : Bytes := if f.mutes x || f.ignoreSysex then [] else x

theorem share_nil (f : Filter) : f.share [] = [] := by
  unfold share
  split
  · rfl
  · rfl

/-- What is kept of a fragment: it is not muted, and where SysEx is ignored it neither belongs to
one nor arrives inside one. -/
theorem apply_accumulate_eq (hx : x ≠ []) :
    (f.apply c x).1.accumulate =
      (!f.mutes x && !(f.ignoreSysex && ((f.apply c x).1.kind.isSysex || (f.apply c x).2))) := by
  rw [apply_accumulate hx]
  cases hm : f.mutes x with
  | true =>
    obtain ⟨-, hignored⟩ := apply_of_mutes (c := c) hm
    simp [hignored]
  | false =>
    rw [ignores_of_not_mutes hm]
    cases f.ignoreSysex <;> simp

end Filter

namespace Assembler

variable {a : Assembler} {e : RawEvent}

/-! ## Runs -/

theorem process_continuing_eq (a : Assembler) (e : RawEvent) :
    (a.process e).continuing =
      (Filter.opens e.fragment || a.continuing && !Filter.closes e.fragment) := by
  rw [process_continuing]
  exact Filter.apply_continuing_eq _ _ _

theorem judge_accumulate_eq (hx : e.fragment ≠ []) :
    (a.judge e.fragment).1.accumulate =
      (!a.filter.mutes e.fragment && !(a.filter.ignoreSysex &&
        ((a.judge e.fragment).1.kind.isSysex || (a.judge e.fragment).2))) :=
  Filter.apply_accumulate_eq hx

/-- What is held back of the message being built when the next fragment arrives. -/
def pending (a : Assembler) : Bytes := if a.continuing then a.draft.bytes else []

theorem DraftInv.pending (h : a.DraftInv) : a.pending = a.draft.bytes := by
  unfold Assembler.pending
  cases hc : a.continuing with
  | true => rfl
  | false => exact (h.empty (.inl hc)).symm

/-- A fragment that leaves a SysEx in progress completes no message. -/
theorem process_open (hc : (a.process e).continuing = true) :
    a.emitted? e = none ∧
      (a.process e).draft.bytes = a.pending ++ a.filter.share e.fragment := by
  have hjudged : (a.judge e.fragment).2 = true := by rw [← process_continuing, hc]
  have hheld : (a.judge e.fragment).1.deliver = false := by
    rw [judge_deliver, hjudged, Bool.not_true, Bool.and_false]
  refine ⟨by rw [emitted?, hheld]; rfl, ?_⟩
  by_cases hx : e.fragment = []
  · have hbefore : a.continuing = true := by rwa [hx] at hjudged
    rw [process_nil hx, pending, hbefore, hx, Filter.share_nil, List.append_nil]
    rfl
  · have hkept : (a.judge e.fragment).1.accumulate =
        !(a.filter.mutes e.fragment || a.filter.ignoreSysex) := by
      rw [judge_accumulate_eq hx, hjudged]
      simp
    rw [process_draft hx, hheld, if_neg Bool.false_ne_true, gathered, hkept, pending, Filter.share]
    cases a.filter.mutes e.fragment || a.filter.ignoreSysex
    · rfl
    · rfl

/-- A fragment that leaves no SysEx in progress completes what was held back, if SysEx is not
ignored and the fragment is not muted. -/
theorem emitted_closed (hx : e.fragment ≠ []) (hc : (a.process e).continuing = false)
    (hshown : a.filter.ignoreSysex = false) (hm : a.filter.mutes e.fragment = false) :
    a.emitted? e = some ⟨(a.stamper.stamp e.time).1, a.pending ++ e.fragment⟩ := by
  rw [process_continuing] at hc
  have hkept : (a.judge e.fragment).1.accumulate = true := by
    rw [judge_accumulate_eq hx, hshown, hm]
    rfl
  have hdone : (a.judge e.fragment).1.deliver = true := by
    rw [judge_deliver, hkept, hc]
    rfl
  rw [emitted?, hdone, if_pos rfl, gathered, hkept, if_pos rfl, pending]

/-- As long as nothing closes a SysEx in progress, it stays in progress, and fragments are held back
and none is handed over. -/
theorem processAll_inside (hc : a.continuing = true) {es : List RawEvent}
    (hopen : ∀ e ∈ es, Filter.closes e.fragment = false) :
    (a.processAll es).continuing = true ∧ a.handed es = [] ∧
      (a.processAll es).pending = a.pending ++ es.flatMap fun e => a.filter.share e.fragment := by
  induction es generalizing a with
  | nil => exact ⟨hc, rfl, (List.append_nil _).symm⟩
  | cons e es ih =>
    have hnext : (a.process e).continuing = true := by
      rw [process_continuing_eq, hc, hopen e List.mem_cons_self]
      simp
    obtain ⟨hnone, hdraft⟩ := process_open hnext
    have hpending : (a.process e).pending = a.pending ++ a.filter.share e.fragment := by
      rw [pending, hnext, if_pos rfl, hdraft]
    obtain ⟨hlast, hrest, hheld⟩ := ih hnext fun x hx => hopen x (List.mem_cons_of_mem _ hx)
    refine ⟨hlast, ?_, ?_⟩
    · rw [handed, hnone, hrest]
      rfl
    · rw [processAll_cons, hheld, hpending, process_filter, List.flatMap_cons, List.append_assoc]

/-- Where no SysEx is in progress nothing of the past but the stamps has a part in what is handed
over. -/
theorem sink_afresh (h : a.DraftInv) (hc : a.continuing = false) (es : List RawEvent) :
    (a.processAll es).sink =
      (processAll { filter := a.filter, sink := a.sink, stamper := a.stamper } es).sink := by
  have hagrees : a.Agrees { filter := a.filter, sink := a.sink, stamper := a.stamper } := by
    refine ⟨rfl, ?_, hc, rfl⟩
    exact congrArg Draft.mk (h.empty (.inl hc))
  rw [processAll_sink, processAll_sink, hagrees.handed]

/-- Behind these fragments a SysEx is in progress: one of them has opened it, or it was in progress
before them, and nothing has closed it since. -/
def Pending (a : Assembler) (es : List RawEvent) : Prop :=
  (a.continuing = true ∧ ∀ e ∈ es, Filter.closes e.fragment = false) ∨
    ∃ earlier e later, es = earlier ++ e :: later ∧ Filter.opens e.fragment = true ∧
      ∀ x ∈ later, Filter.closes x.fragment = false

theorem processAll_continuing_iff (a : Assembler) (es : List RawEvent) :
    (a.processAll es).continuing = true ↔ a.Pending es := by
  unfold Pending
  induction es generalizing a with
  | nil => simp
  | cons e es ih =>
    rw [processAll_cons, ih, process_continuing_eq, Bool.or_eq_true, Bool.and_eq_true,
      Bool.not_eq_true']
    constructor
    · rintro (⟨hopens | ⟨hc, he⟩, hes⟩ | ⟨earlier, x, later, rfl, hopens, hlater⟩)
      · exact .inr ⟨[], e, es, rfl, hopens, hes⟩
      · exact .inl ⟨hc, List.forall_mem_cons.mpr ⟨he, hes⟩⟩
      · exact .inr ⟨e :: earlier, x, later, rfl, hopens, hlater⟩
    · rintro (⟨hc, hes⟩ | ⟨earlier, x, later, heq, hopens, hlater⟩)
      · obtain ⟨he, hes⟩ := List.forall_mem_cons.mp hes
        exact .inl ⟨.inr ⟨hc, he⟩, hes⟩
      · cases earlier with
        | nil =>
          obtain ⟨rfl, rfl⟩ := List.cons.inj heq
          exact .inl ⟨.inl hopens, hlater⟩
        | cons first earlier =>
          obtain ⟨rfl, rfl⟩ := List.cons.inj heq
          exact .inr ⟨earlier, x, later, rfl, hopens, hlater⟩

/-- **A closing byte is seen unless it ends an aside.** Take a fresh assembler with any filter and
any sink, let anything happen at its gate, and give it some more fragments and then one that ends
with the closing byte. A SysEx is in progress behind it exactly if one was in progress before it and
it is led by time code, a clock tick or active sensing. If none is, what was held back is handed
over with the fragment, unless SysEx is ignored or the fragment is muted, and what comes later is
treated as by a fresh assembler. But if one is, the fragment is only kept or dropped, and nothing is
handed over until a fragment closes the SysEx. -/
theorem closed_unless_aside (f : Filter) (s : Sink) (g : Gate) (events : List Gate.Event)
    (more : List RawEvent) (e : RawEvent) (hlast : e.fragment.getLast? = some Status.sysexEnd) :
    let run := meetAll (g, { filter := f, sink := s, opening := g.opening }) events
    let noticed := run.2.notice run.1.opening
    let before := noticed.processAll more
    let after := before.process e
    (after.continuing = true ↔ noticed.Pending more ∧ Filter.isAside e.fragment = true) ∧
    (after.continuing = false →
      (f.ignoreSysex = false → f.mutes e.fragment = false →
        after.sink = (before.sink.deliver
          ⟨(before.stamper.stamp e.time).1, before.draft.bytes ++ e.fragment⟩).2) ∧
      after.draft.bytes = [] ∧
      ∀ later, (after.processAll later).sink =
        (processAll { filter := f, sink := after.sink, stamper := after.stamper } later).sink) ∧
    (after.continuing = true →
      after.draft.bytes = before.draft.bytes ++ f.share e.fragment ∧
      ∀ later : List RawEvent, (∀ x ∈ later, Filter.closes x.fragment = false) →
        (after.processAll later).continuing = true ∧
          (after.processAll later).sink = before.sink) := by
  intro run noticed before after
  obtain ⟨held, hheld, -⟩ :=
    Holds.meetAll (w := (g, { filter := f, sink := s, opening := g.opening }))
      (holds_fresh f s g.opening) events
  have hbefore : before.DraftInv := (hheld.inv.notice run.1.opening).1.processAll more
  have hfilter : before.filter = f := by
    have hrun : run.2.filter = f := meetAll_filter _ events
    rw [processAll_filter, notice_filter, hrun]
  have hx : e.fragment ≠ [] := fun hx => by rw [hx] at hlast; cases hlast
  have hcloses : Filter.closes e.fragment = !Filter.isAside e.fragment := by
    simp [Filter.closes, hlast]
  have hopens : Filter.opens e.fragment = false := by simp [Filter.opens, hlast]
  have hafter : after.continuing = (before.continuing && Filter.isAside e.fragment) := by
    rw [process_continuing_eq, hopens, hcloses, Bool.false_or, Bool.not_not]
  refine ⟨?_, fun hclosed => ⟨fun hshown hm => ?_, ?_, fun later => ?_⟩, fun hopen => ?_⟩
  · rw [hafter, Bool.and_eq_true, processAll_continuing_iff]
  · rw [process_sink, emitted_closed hx hclosed (hfilter ▸ hshown) (hfilter ▸ hm),
      hbefore.pending]
    rfl
  · exact (hbefore.process e).empty (.inl hclosed)
  · rw [sink_afresh (hbefore.process e) hclosed, process_filter, hfilter]
  · obtain ⟨hnone, hdraft⟩ := process_open hopen
    rw [hfilter, hbefore.pending] at hdraft
    refine ⟨hdraft, fun later hlater => ?_⟩
    obtain ⟨hlast, hrest, -⟩ := processAll_inside hopen hlater
    refine ⟨hlast, ?_⟩
    rw [processAll_sink, hrest, process_sink, hnone]
    rfl

/-- A SysEx in two fragments, handed over at the closing byte, with a note behind it. -/
theorem closed_unless_aside_two_fragments :
    let start : Gate × Assembler := ({}, { filter := .passAll, sink := .callback [] })
    let before := start.2.processAll [⟨{}, [0xF0, 0x01]⟩]
    let after := before.process ⟨{}, [0x02, 0xF7]⟩
    [0x02, 0xF7].getLast? = some Status.sysexEnd ∧ after.continuing = false ∧
      after.sink = (before.sink.deliver ⟨(before.stamper.stamp {}).1, [0xF0, 0x01, 0x02, 0xF7]⟩).2 ∧
      (after.processAll [⟨{}, [0x90, 0x3C, 0x40]⟩]).sink.contents.map (·.bytes) =
        [[0xF0, 0x01, 0x02, 0xF7], [0x90, 0x3C, 0x40]] := by
  intro start before after
  have hlast : [0x02, 0xF7].getLast? = some Status.sysexEnd := by decide
  have hclosed : after.continuing = false := by decide
  obtain ⟨-, hdone, -⟩ :=
    closed_unless_aside .passAll (.callback []) {} [] [⟨{}, [0xF0, 0x01]⟩] ⟨{}, [0x02, 0xF7]⟩ hlast
  obtain ⟨hsink, -, hlater⟩ := hdone hclosed
  refine ⟨hlast, hclosed, hsink rfl (by decide), ?_⟩
  have hfresh := hlater [⟨{}, [0x90, 0x3C, 0x40]⟩]
  change (after.processAll _).sink = _ at hfresh
  rw [hfresh]
  decide

/-- The closing byte behind a clock tick is not seen: the SysEx stays in progress, and the note
behind it is swallowed. -/
theorem closing_byte_behind_tick :
    let fragments : List Bytes := [[0xF0, 0x01], [0xF8, 0xF7], [0x90, 0x3C, 0x40]]
    let run (n : Nat) : Assembler :=
      processAll { filter := .passAll, sink := .callback [] } (RawEvent.batch {} (fragments.take n))
    fragments[1]?.bind List.getLast? = some Status.sysexEnd ∧
      (run 2).continuing = true ∧ (run 2).sink.contents.map (·.bytes) = [] ∧
      (run 3).continuing = true ∧ (run 3).sink.contents.map (·.bytes) = [] := by
  intro fragments run
  decide

end Assembler

end PatchBay
