import PatchBay.Proofs.Conservation

/-!
# Filtering commutes with reassembly

Dropping classes of fragments while messages are put together gives the same messages as leaving the
fragments out beforehand and dropping SysEx messages afterwards. The two runs are related fragment
by fragment: they agree on whether a SysEx is in progress, and on the draft as long as SysEx is not
ignored.
-/

namespace PatchBay

namespace Filter

variable {f g : Filter} {c : Bool} {x : Bytes}

/-- Whether a fragment is led by time code, a clock tick or active sensing, and that is ignored. -/
def mutes (f : Filter) (fragment : Bytes) : Bool :=
  f.ignoreTiming &&
      (fragment.head? == some Status.timeCode || fragment.head? == some Status.timingClock) ||
    f.ignoreSensing && fragment.head? == some Status.activeSensing

/-- Whether a message is a SysEx, and SysEx is ignored. -/
def hides (f : Filter) (message : Bytes) : Bool :=
  f.ignoreSysex && message.head? == some Status.sysexStart

/-- A fragment that does not belong to a SysEx by its own right leaves the SysEx as it is. -/
theorem apply_continuing_of_not_isSysex (h : (f.apply c x).1.kind.isSysex = false) :
    (f.apply c x).2 = c := by
  cases x with
  | nil => rfl
  | cons first rest =>
    rw [apply_cons] at h ⊢
    change (classify c first).isSysex = false at h
    simp [continuingWith, continuingAfter, h]

/-- Where no SysEx is in progress, a fragment belongs to a SysEx only if it opens one. -/
theorem kind_of_isSysex (h : (f.apply false x).1.kind.isSysex = true) :
    (f.apply false x).1.kind = .sysexStart := by
  cases x with
  | nil => cases h
  | cons first rest =>
    rw [apply_cons] at h ⊢
    simp only [verdict, classify] at h ⊢
    split_ifs at h ⊢ <;> simp_all [FragmentClass.isSysex]

theorem apply_of_mutes (h : f.mutes x = true) :
    (f.apply c x).1.kind.isSysex = false ∧ f.ignores (f.apply c x).1.kind = true := by
  cases x with
  | nil => simp [mutes] at h
  | cons first rest =>
    have hled : f.ignoreTiming = true ∧ (first = Status.timeCode ∨ first = Status.timingClock) ∨
        f.ignoreSensing = true ∧ first = Status.activeSensing := by
      simpa [mutes] using h
    rw [apply_cons]
    rcases hled with ⟨hi, rfl | rfl⟩ | ⟨hi, rfl⟩
    · exact ⟨rfl, hi⟩
    · exact ⟨rfl, hi⟩
    · exact ⟨rfl, hi⟩

/-- Of the fragments that are not muted only those of an ignored SysEx are ignored. -/
theorem ignores_of_not_mutes (h : f.mutes x = false) :
    f.ignores (f.apply c x).1.kind = ((f.apply c x).1.kind.isSysex && f.ignoreSysex) := by
  cases x with
  | nil => rfl
  | cons first rest =>
    have hled : (f.ignoreTiming = true → ¬(first = Status.timeCode ∨ first = Status.timingClock)) ∧
        (f.ignoreSensing = true → first ≠ Status.activeSensing) := by
      simpa [mutes] using h
    rw [apply_cons]
    simp only [verdict, classify]
    split_ifs with h1 h2 h3
    · simp [ignores, FragmentClass.isSysex]
    · simpa [ignores, FragmentClass.isSysex] using fun hi => hled.1 hi h2
    · simpa [ignores, FragmentClass.isSysex] using fun hi => hled.2 hi h3
    · simp [ignores, FragmentClass.isSysex]
    · rfl

theorem passAll_accumulate (hx : x ≠ []) : (passAll.apply c x).1.accumulate = true := by
  rw [apply_accumulate hx]
  cases (passAll.apply c x).1.kind <;> simp [ignores, passAll]

end Filter

namespace Assembler

variable {a b : Assembler} {e : RawEvent}

/-- The relation between an assembler and one that drops nothing and is spared the fragments that
the first one mutes. -/
structure Follows (a b : Assembler) : Prop where
  passAll : b.filter = .passAll
  continuing : a.continuing = b.continuing
  draft : a.filter.ignoreSysex = false → a.draft = b.draft
  left : a.DraftInv
  right : b.DraftInv

/-- The messages that a fragment completes, as bytes. -/
def emittedBytes (a : Assembler) (e : RawEvent) : List Bytes :=
  (a.emitted? e).toList.map (·.bytes)

theorem emittedBytes_eq (a : Assembler) (e : RawEvent) :
    a.emittedBytes e =
      if (a.judge e.fragment).1.deliver then [a.gathered e.fragment] else [] := by
  unfold emittedBytes emitted?
  split <;> rfl

/-- A muted fragment leaves no trace. -/
theorem Follows.muted (h : a.Follows b) (hm : a.filter.mutes e.fragment = true) :
    (a.process e).Follows b ∧ a.emittedBytes e = [] := by
  have hx : e.fragment ≠ [] := fun hx => by rw [hx] at hm; simp [Filter.mutes] at hm
  obtain ⟨hsysex, hignored⟩ := Filter.apply_of_mutes (c := a.continuing) hm
  change a.filter.ignores (a.judge e.fragment).1.kind = true at hignored
  have hacc : (a.judge e.fragment).1.accumulate = false := by
    rw [judge_accumulate _ hx, hignored]
    rfl
  have hdel : (a.judge e.fragment).1.deliver = false := by
    rw [judge_deliver, hacc]
    rfl
  have hcont : (a.judge e.fragment).2 = a.continuing :=
    Filter.apply_continuing_of_not_isSysex hsysex
  refine ⟨⟨h.passAll, ?_, fun hi => ?_, h.left.process e, h.right⟩, ?_⟩
  · rw [process_continuing, hcont, h.continuing]
  · rw [process_filter] at hi
    rw [process_draft hx, hdel, h.left.gathered, hacc, ← h.draft hi]
    simp
  · rw [emittedBytes_eq, hdel]
    rfl

/-- What the two make of a fragment that is not muted. The first one keeps it unless SysEx is
ignored and the fragment belongs to a SysEx or arrives inside one. -/
theorem Follows.judge (h : a.Follows b) (hx : e.fragment ≠ [])
    (hm : a.filter.mutes e.fragment = false) :
    (a.judge e.fragment).2 = (b.judge e.fragment).2 ∧
      (b.judge e.fragment).1.accumulate = true ∧
      (b.judge e.fragment).1.deliver = !(b.judge e.fragment).2 ∧
      (a.judge e.fragment).1.accumulate =
        !(a.filter.ignoreSysex &&
          ((b.judge e.fragment).1.kind.isSysex || (b.judge e.fragment).2)) := by
  have hcont : (a.judge e.fragment).2 = (b.judge e.fragment).2 := by
    unfold Assembler.judge
    rw [h.continuing]
    exact Filter.apply_continuing _ _ _ _
  have hkind : (a.judge e.fragment).1.kind = (b.judge e.fragment).1.kind := by
    unfold Assembler.judge
    rw [h.continuing]
    exact Filter.apply_kind _ _ _ _
  have hacc : (b.judge e.fragment).1.accumulate = true := by
    unfold Assembler.judge
    rw [h.passAll]
    exact Filter.passAll_accumulate hx
  have hignores : a.filter.ignores (a.judge e.fragment).1.kind =
      ((a.judge e.fragment).1.kind.isSysex && a.filter.ignoreSysex) :=
    Filter.ignores_of_not_mutes hm
  refine ⟨hcont, hacc, ?_, ?_⟩
  · rw [judge_deliver, hacc, Bool.true_and]
  · rw [judge_accumulate _ hx, hignores, hcont, hkind]
    cases a.filter.ignoreSysex <;> simp

/-- Where SysEx is not ignored, a fragment that is not muted does the same to both. -/
theorem Follows.shown (h : a.Follows b) (hx : e.fragment ≠ [])
    (hm : a.filter.mutes e.fragment = false) (hi : a.filter.ignoreSysex = false) :
    (a.process e).draft = (b.process e).draft ∧ a.emittedBytes e = b.emittedBytes e := by
  obtain ⟨hcont, hacc, hdel, hown⟩ := h.judge hx hm
  rw [hi, Bool.false_and, Bool.not_false] at hown
  have hdel' : (a.judge e.fragment).1.deliver = (b.judge e.fragment).1.deliver := by
    rw [judge_deliver, hown, hcont, hdel, Bool.true_and]
  have hgathered : a.gathered e.fragment = b.gathered e.fragment := by
    rw [h.left.gathered, h.right.gathered, hown, hacc, h.draft hi]
  rw [process_draft hx, process_draft hx, emittedBytes_eq, emittedBytes_eq, hdel', hgathered]
  exact ⟨rfl, rfl⟩

/-- Where SysEx is ignored, the messages that a fragment completes differ by the SysEx ones. -/
theorem Follows.hidden (h : a.Follows b) (hx : e.fragment ≠ [])
    (hm : a.filter.mutes e.fragment = false) (hi : a.filter.ignoreSysex = true) :
    a.emittedBytes e = (b.emittedBytes e).filter fun m => !a.filter.hides m := by
  obtain ⟨hcont, hacc, hdel, hown⟩ := h.judge hx hm
  have hd := a.judge_deliver e.fragment
  rw [hown, hcont, hi, Bool.true_and] at hd
  rw [emittedBytes_eq, emittedBytes_eq, hd, hdel]
  cases hc : (b.judge e.fragment).2
  · cases hs : (b.judge e.fragment).1.kind.isSysex
    · -- a message of its own: neither holds anything back, and it does not start like a SysEx
      have hidle : b.continuing = false := by
        rw [← hc]
        exact (Filter.apply_continuing_of_not_isSysex hs).symm
      have hhead : ¬ e.fragment.head? = some Status.sysexStart := by
        rw [← Filter.apply_kind_sysexStart b.filter b.continuing]
        intro hk
        change (b.judge e.fragment).1.kind = _ at hk
        rw [hk] at hs
        cases hs
      have hga : a.gathered e.fragment = e.fragment := by
        rw [h.left.gathered, h.left.empty (Or.inr hi), hown, hs, hc, hi]
        simp
      have hgb : b.gathered e.fragment = e.fragment := by
        rw [h.right.gathered, h.right.empty (Or.inl hidle), hacc]
        simp
      simp [hga, hgb, Filter.hides, hhead]
    · -- the end of a SysEx: the second one hands it out, and it starts like one
      have hhead : (b.gathered e.fragment).head? = some Status.sysexStart := by
        rw [h.right.gathered, hacc]
        cases hb : b.continuing
        · rw [h.right.empty (Or.inl hb)]
          unfold Assembler.judge at hs
          rw [hb] at hs
          simpa using (Filter.apply_kind_sysexStart _ _ _).mp (Filter.kind_of_isSysex hs)
        · have hstart := h.right.starts hb (by rw [h.passAll]; rfl)
          simp [hstart]
      simp [Filter.hides, hi, hhead]
  · simp

theorem Follows.process (h : a.Follows b) (hm : a.filter.mutes e.fragment = false) :
    (a.process e).Follows (b.process e) ∧
      a.emittedBytes e = (b.emittedBytes e).filter fun m => !a.filter.hides m := by
  by_cases hx : e.fragment = []
  · have hnone (a : Assembler) : a.emittedBytes e = [] := by
      rw [emittedBytes_eq, hx, judge_deliver_nil]
      rfl
    rw [hnone, hnone, process_nil hx, process_nil hx]
    exact ⟨⟨h.passAll, h.continuing, h.draft, ⟨h.left.empty, h.left.starts⟩,
      ⟨h.right.empty, h.right.starts⟩⟩, rfl⟩
  refine ⟨⟨?_, ?_, fun hi => ?_, h.left.process e, h.right.process e⟩, ?_⟩
  · rw [process_filter, h.passAll]
  · rw [process_continuing, process_continuing, (h.judge hx hm).1]
  · rw [process_filter] at hi
    exact (h.shown hx hm hi).1
  · cases hi : a.filter.ignoreSysex
    · rw [(h.shown hx hm hi).2]
      exact (List.filter_eq_self.mpr fun m _ => by simp [Filter.hides, hi]).symm
    · exact h.hidden hx hm hi

/-! ## Runs -/

theorem Follows.handed (h : a.Follows b) (es : List RawEvent) :
    (a.handed es).map (·.bytes) =
      ((b.handed (es.filter fun e => !a.filter.mutes e.fragment)).map (·.bytes)).filter
        fun m => !a.filter.hides m := by
  induction es generalizing a b with
  | nil => rfl
  | cons e es ih =>
    rw [Assembler.handed, List.map_append]
    cases hm : a.filter.mutes e.fragment
    · obtain ⟨hnext, hbytes⟩ := h.process hm
      rw [ih hnext, process_filter]
      simp only [List.filter_cons, hm, Bool.not_false, if_true, Assembler.handed, List.map_append,
        List.filter_append]
      rw [← emittedBytes, hbytes, emittedBytes]
    · obtain ⟨hnext, hbytes⟩ := h.muted hm
      rw [ih hnext, process_filter]
      rw [emittedBytes] at hbytes
      simp only [List.filter_cons, hm, Bool.not_true, Bool.false_eq_true, if_false, hbytes,
        List.nil_append]

/-- Two assemblers that are in a SysEx together, and have counted alike the fragments that open one
inside another, do so after any fragment, whatever their filters. -/
theorem tracks_process (hc : a.continuing = b.continuing)
    (hr : a.counters.restarted = b.counters.restarted) (e : RawEvent) :
    (a.process e).continuing = (b.process e).continuing ∧
      (a.process e).counters.restarted = (b.process e).counters.restarted := by
  rw [process_continuing, process_continuing, process_restarted, process_restarted, hc, hr]
  unfold judge
  rw [hc, Filter.apply_continuing a.filter b.filter, Filter.apply_kind a.filter b.filter]
  exact ⟨rfl, rfl⟩

theorem tracks_processAll (hc : a.continuing = b.continuing)
    (hr : a.counters.restarted = b.counters.restarted) (es : List RawEvent) :
    (a.processAll es).continuing = (b.processAll es).continuing ∧
      (a.processAll es).counters.restarted = (b.processAll es).counters.restarted := by
  induction es generalizing a b with
  | nil => exact ⟨hc, hr⟩
  | cons e es ih =>
    obtain ⟨hc', hr'⟩ := tracks_process hc hr e
    exact ih hc' hr'

theorem follows_fresh (f : Filter) (s t : Sink) :
    Follows { filter := f, sink := s } { filter := .passAll, sink := t } :=
  ⟨rfl, rfl, fun _ => rfl, draftInv_fresh f s, draftInv_fresh .passAll t⟩

theorem processAll_callback (f : Filter) (es : List RawEvent) :
    (processAll { filter := f, sink := .callback [] } es).sink.contents =
      handed { filter := f, sink := .callback [] } es := by
  rw [processAll_sink, Sink.deliverAll_callback]
  rfl

/-- **Filtering commutes with reassembly.** What a callback behind the filter `f` is called with are
the messages that a callback behind no filter is called with when the muted fragments are left out,
less the SysEx messages if `f` ignores them; and after any number of fragments all filters agree on
whether a SysEx is in progress and on how often one was opened inside another. -/
theorem filtering_commutes (f : Filter) (es : List RawEvent) :
    let run (f : Filter) (es : List RawEvent) : Assembler :=
      processAll { filter := f, sink := .callback [] } es
    (run f es).sink.contents.map (·.bytes) =
        ((run .passAll (es.filter fun e => !f.mutes e.fragment)).sink.contents.map (·.bytes)).filter
          (fun m => !f.hides m) ∧
      ∀ (n : Nat) (g h : Filter),
        (run g (es.take n)).continuing = (run h (es.take n)).continuing ∧
          (run g (es.take n)).counters.restarted = (run h (es.take n)).counters.restarted := by
  intro run
  refine ⟨?_, fun n g h => tracks_processAll (a := run g []) (b := run h []) rfl rfl _⟩
  rw [processAll_callback, processAll_callback]
  exact (follows_fresh f (.callback []) (.callback [])).handed es

end Assembler

end PatchBay
