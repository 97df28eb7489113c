import PatchBay.Proofs.FreshStart

/-!
# Messages are framed

What an assembler hands out is either a SysEx, with its first byte and its last, or a single
fragment that opens no SysEx. A SysEx is put together from whole fragments in order of arrival, and
no fragment goes into two messages. What carries this through a run, with batches let in or refused
and the gate opened at any time, is that what is held back is a row of whole fragments.
-/

namespace PatchBay

/-- The fragments that make up a message: those of a SysEx, or a single one that opens none. -/
inductive Framed (f : Filter) : List Bytes → Prop where
  | sysex {group : List Bytes} (kept : f.ignoreSysex = false)
      (starts : group.flatten.head? = some Status.sysexStart)
      (ends : group.flatten.getLast? = some Status.sysexEnd) : Framed f group
  | single {x : Bytes} (nonempty : x ≠ []) (other : x.head? ≠ some Status.sysexStart) :
      Framed f [x]

/-- A message is not empty, and starts as a SysEx only if SysEx is not ignored. -/
theorem Framed.flatten {f : Filter} {group : List Bytes} (h : Framed f group) :
    group.flatten ≠ [] ∧
      (f.ignoreSysex = true → group.flatten.head? ≠ some Status.sysexStart) := by
  cases h with
  | sysex kept starts ends =>
    refine ⟨fun hnil => ?_, fun hignored => ?_⟩
    · rw [hnil] at starts
      cases starts
    · rw [kept] at hignored
      cases hignored
  | single nonempty other =>
    rw [List.flatten_singleton]
    exact ⟨nonempty, fun _ => other⟩

/-- Of the fragments that were held back and of those that arrived, in order, some make up the
messages that are handed out, some are held back and some are dropped. -/
def Groups (f : Filter) (held arrived : List Bytes) (out : List Bytes) (left : List Bytes) : Prop :=
  ∃ groups : List (List Bytes), out = groups.map List.flatten ∧
    (groups.flatten ++ left).Sublist (held ++ arrived) ∧ ∀ group ∈ groups, Framed f group

theorem Groups.none {f : Filter} {held arrived left : List Bytes}
    (h : left.Sublist (held ++ arrived)) : Groups f held arrived [] left :=
  ⟨[], rfl, h, nofun⟩

theorem Groups.one {f : Filter} {held arrived group : List Bytes} (hframed : Framed f group)
    (h : group.Sublist (held ++ arrived)) : Groups f held arrived [group.flatten] [] := by
  refine ⟨[group], rfl, ?_, fun g hg => ?_⟩
  · simpa using h
  · rw [List.mem_singleton.mp hg]
    exact hframed

theorem Groups.trans {f : Filter} {held arrived out left more out' left' : List Bytes}
    (h : Groups f held arrived out left) (h' : Groups f left more out' left') :
    Groups f held (arrived ++ more) (out ++ out') left' := by
  obtain ⟨groups, rfl, hsub, hframed⟩ := h
  obtain ⟨groups', rfl, hsub', hframed'⟩ := h'
  refine ⟨groups ++ groups', List.map_append.symm, ?_, fun group hgroup => ?_⟩
  · have hlater : (groups.flatten ++ (groups'.flatten ++ left')).Sublist
        (groups.flatten ++ (left ++ more)) := List.Sublist.append_left hsub' _
    have hfirst : (groups.flatten ++ left ++ more).Sublist (held ++ arrived ++ more) :=
      List.Sublist.append_right hsub more
    rw [List.flatten_append, List.append_assoc, ← List.append_assoc held]
    rw [← List.append_assoc _ left] at hlater
    exact hlater.trans hfirst
  · rcases List.mem_append.mp hgroup with hmem | hmem
    · exact hframed group hmem
    · exact hframed' group hmem

/-- A fragment that ends a SysEx ends with its last byte. -/
theorem Filter.getLast?_of_apply_closes {f : Filter} {c : Bool} {x : Bytes}
    (hkind : (f.apply c x).1.kind.isSysex = true) (h : (f.apply c x).2 = false) :
    x.getLast? = some Status.sysexEnd := by
  cases x with
  | nil => cases hkind
  | cons first rest =>
    rw [apply_cons] at hkind h
    change (classify c first).isSysex = true at hkind
    rw [List.getLast?_eq_some_getLast (List.cons_ne_nil first rest)]
    simpa [continuingWith, continuingAfter, hkind] using h

namespace Assembler

variable {a : Assembler} {e : RawEvent} {held : List Bytes}

/-! ## One fragment -/

/-- An assembler whose draft is a row of whole fragments. -/
structure Holds (a : Assembler) (held : List Bytes) : Prop where
  inv : a.DraftInv
  draft : a.draft.bytes = held.flatten

/-- A fragment that completes a message ends a SysEx or is a message of its own. -/
theorem Holds.complete (h : a.Holds held) (hx : e.fragment ≠ [])
    (hd : (a.judge e.fragment).1.deliver = true) :
    ∃ group, Framed a.filter group ∧ group.Sublist (held ++ [e.fragment]) ∧
      a.gathered e.fragment = group.flatten := by
  have hboth := a.judge_deliver e.fragment
  rw [hd, eq_comm, Bool.and_eq_true, Bool.not_eq_true'] at hboth
  obtain ⟨hacc, hafter⟩ := hboth
  have hkeep := a.judge_accumulate hx
  rw [hacc, eq_comm, Bool.and_eq_true, Bool.not_eq_true'] at hkeep
  have hgathered : a.gathered e.fragment = held.flatten ++ e.fragment := by
    rw [h.inv.gathered, h.draft, hacc, if_pos rfl]
  -- a SysEx that is delivered is not ignored, and is closed by this fragment
  have hclose : (a.judge e.fragment).1.kind.isSysex = true →
      a.filter.ignoreSysex = false ∧ e.fragment.getLast? = some Status.sysexEnd := fun hkind =>
    ⟨(Filter.ignores_of_isSysex hkind).symm.trans hkeep.1,
      Filter.getLast?_of_apply_closes hkind hafter⟩
  cases hcont : a.continuing with
  | true =>
    have hkind : (a.judge e.fragment).1.kind.isSysex = true := by
      unfold judge at hafter ⊢
      rw [hcont] at hafter ⊢
      exact Filter.isSysex_of_apply_closes hafter
    obtain ⟨hshown, hlast⟩ := hclose hkind
    have hstart := h.inv.starts hcont hshown
    rw [h.draft] at hstart
    refine ⟨held ++ [e.fragment], .sysex hshown ?_ ?_, List.Sublist.refl _, ?_⟩
    · simp [hstart]
    · simp [hlast]
    · simpa using hgathered
  | false =>
    have hempty : held.flatten = [] := h.draft.symm.trans (h.inv.empty (.inl hcont))
    rw [hempty, List.nil_append] at hgathered
    refine ⟨[e.fragment], ?_, List.sublist_append_right _ _, by simpa using hgathered⟩
    by_cases hopens : e.fragment.head? = some Status.sysexStart
    · have hkind : (a.judge e.fragment).1.kind = .sysexStart :=
        (Filter.apply_kind_sysexStart _ _ _).mpr hopens
      obtain ⟨hshown, hlast⟩ := hclose (congrArg FragmentClass.isSysex hkind)
      exact .sysex hshown (by simpa using hopens) (by simpa using hlast)
    · exact .single hx hopens

/-- One fragment. -/
theorem Holds.process (h : a.Holds held) (e : RawEvent) :
    ∃ left, (a.process e).Holds left ∧
      Groups a.filter held [e.fragment] ((a.emitted? e).toList.map (·.bytes)) left := by
  have hinv := h.inv.process e
  unfold emitted?
  by_cases hx : e.fragment = []
  · rw [hx, judge_deliver_nil]
    refine ⟨held, ⟨hinv, ?_⟩, .none (List.sublist_append_left _ _)⟩
    rw [process_nil hx]
    exact h.draft
  cases hd : (a.judge e.fragment).1.deliver with
  | true =>
    obtain ⟨group, hframed, hsub, hgathered⟩ := h.complete hx hd
    refine ⟨[], ⟨hinv, ?_⟩, ?_⟩
    · rw [process_draft hx, hd]
      rfl
    · rw [if_pos rfl, Option.toList_some, List.map_singleton, hgathered]
      exact .one hframed hsub
  | false =>
    have hdraft : (a.process e).draft.bytes = a.gathered e.fragment := by
      rw [process_draft hx, hd]
      rfl
    rw [h.inv.gathered, h.draft] at hdraft
    cases hacc : (a.judge e.fragment).1.accumulate with
    | true =>
      refine ⟨held ++ [e.fragment], ⟨hinv, ?_⟩, .none (List.Sublist.refl _)⟩
      simpa [hacc] using hdraft
    | false =>
      refine ⟨held, ⟨hinv, ?_⟩, .none (List.sublist_append_left _ _)⟩
      simpa [hacc] using hdraft

/-- Any fragments in a row. -/
theorem Holds.processAll (h : a.Holds held) (es : List RawEvent) :
    ∃ left, (a.processAll es).Holds left ∧
      Groups a.filter held (es.map (·.fragment)) ((a.handed es).map (·.bytes)) left := by
  induction es generalizing a held with
  | nil => exact ⟨held, h, .none (by simp)⟩
  | cons e es ih =>
    obtain ⟨mid, hmid, hfirst⟩ := h.process e
    obtain ⟨left, hleft, hlater⟩ := ih hmid
    rw [process_filter] at hlater
    refine ⟨left, hleft, ?_⟩
    rw [handed, List.map_append]
    exact hfirst.trans hlater

/-- Forgetting a message leaves a row of fragments. -/
theorem Holds.notice (h : a.Holds held) (opening : UInt64) :
    ∃ left, (a.notice opening).Holds left ∧ left.Sublist held := by
  obtain ⟨hinv, -⟩ := h.inv.notice opening
  by_cases hseen : opening = a.opening
  · refine ⟨held, ?_, List.Sublist.refl _⟩
    rwa [Assembler.notice, if_pos hseen]
  · refine ⟨[], ⟨hinv, ?_⟩, List.nil_sublist _⟩
    rw [Assembler.notice, if_neg hseen]
    rfl

theorem holds_fresh (f : Filter) (s : Sink) (opening : UInt64) :
    Holds { filter := f, sink := s, opening } [] :=
  ⟨⟨fun _ => rfl, nofun⟩, rfl⟩

end Assembler

/-! ## Runs behind a gate -/

/-- Something that happens at the gate of an assembler. -/
inductive Gate.Event where
  | opened (port : PortId)
  | closed
  | batch (port : PortId) (events : List RawEvent)
  /-- Fragments that the assembler is given past the gate. -/
  | given (events : List RawEvent)

/-- The fragments that are processed. -/
def Gate.admits (g : Gate) : Gate.Event → List RawEvent
  | .batch port events => if g.active = some port then events else []
  | .given events => events
  | _ => []

namespace Assembler

/-- A gate and the assembler behind it after something happened. -/
def meet (w : Gate × Assembler) : Gate.Event → Gate × Assembler
  | .opened port => (w.1.activate port, w.2)
  | .closed => (w.1.deactivate, w.2)
  | .batch port events => (w.1, w.2.accept w.1 port events)
  | .given events => (w.1, (w.2.notice w.1.opening).processAll events)

def meetAll (w : Gate × Assembler) (events : List Gate.Event) : Gate × Assembler :=
  events.foldl meet w

/-- The fragments that are processed in a run, in order. -/
def received (w : Gate × Assembler) : List Gate.Event → List Bytes
  | [] => []
  | event :: events => (w.1.admits event).map (·.fragment) ++ received (meet w event) events

/-- The messages that are handed to the sink in a run, whether it takes them or not. -/
def handedOut (w : Gate × Assembler) : List Gate.Event → List Message
  | [] => []
  | event :: events =>
    (w.2.notice w.1.opening).handed (w.1.admits event) ++ handedOut (meet w event) events

variable {w : Gate × Assembler} {f : Filter} {held : List Bytes}

theorem meet_sink (w : Gate × Assembler) (event : Gate.Event) :
    (meet w event).2.sink =
      w.2.sink.deliverAll ((w.2.notice w.1.opening).handed (w.1.admits event)) := by
  have hrun : ∀ es, ((w.2.notice w.1.opening).processAll es).sink =
      w.2.sink.deliverAll ((w.2.notice w.1.opening).handed es) := fun es => by
    rw [processAll_sink, notice_sink]
  cases event with
  | opened port => rfl
  | closed => rfl
  | given events => exact hrun events
  | batch port events =>
    by_cases hopen : w.1.active = some port
    · simp only [meet, Gate.admits, accept_open hopen, if_pos hopen, hrun]
    · simp only [meet, Gate.admits, accept_shut hopen, if_neg hopen]
      rfl

/-- Fragments that are let in. -/
theorem Holds.admitted {a : Assembler} (h : a.Holds held) (opening : UInt64)
    (es : List RawEvent) :
    ∃ left, ((a.notice opening).processAll es).Holds left ∧
      Groups a.filter held (es.map (·.fragment)) (((a.notice opening).handed es).map (·.bytes))
        left := by
  obtain ⟨mid, hmid, hsub⟩ := h.notice opening
  obtain ⟨left, hleft, hgroups⟩ := hmid.processAll es
  rw [notice_filter] at hgroups
  have hfirst : Groups a.filter held [] [] mid := .none (by simpa using hsub)
  exact ⟨left, hleft, hfirst.trans hgroups⟩

theorem meet_filter (w : Gate × Assembler) (event : Gate.Event) :
    (meet w event).2.filter = w.2.filter := by
  cases event with
  | opened port => rfl
  | closed => rfl
  | given events => exact (processAll_filter _ _).trans (notice_filter _ _)
  | batch port events =>
    by_cases hopen : w.1.active = some port
    · simp only [meet, accept_open hopen, processAll_filter, notice_filter]
    · simp only [meet, accept_shut hopen]

/-- Whatever happens at the gate. -/
theorem Holds.meet (h : w.2.Holds held) (event : Gate.Event) :
    ∃ left, (meet w event).2.Holds left ∧
      Groups w.2.filter held ((w.1.admits event).map (·.fragment))
        (((w.2.notice w.1.opening).handed (w.1.admits event)).map (·.bytes)) left := by
  have hsame : Groups w.2.filter held [] [] held := .none (by simp)
  cases event with
  | opened port => exact ⟨held, h, hsame⟩
  | closed => exact ⟨held, h, hsame⟩
  | given events => exact h.admitted w.1.opening events
  | batch port events =>
    by_cases hopen : w.1.active = some port
    · simp only [Assembler.meet, Gate.admits, accept_open hopen, if_pos hopen]
      exact h.admitted w.1.opening events
    · simp only [Assembler.meet, Gate.admits, accept_shut hopen, if_neg hopen]
      exact ⟨held, ⟨⟨h.inv.empty, h.inv.starts⟩, h.draft⟩, hsame⟩

/-- Anything that happens in a row. -/
theorem Holds.meetAll (h : w.2.Holds held) (events : List Gate.Event) :
    ∃ left, (meetAll w events).2.Holds left ∧
      Groups w.2.filter held (received w events) ((handedOut w events).map (·.bytes)) left := by
  induction events generalizing w held with
  | nil => exact ⟨held, h, .none (by simp [received])⟩
  | cons event events ih =>
    obtain ⟨mid, hmid, hfirst⟩ := h.meet event
    obtain ⟨left, hleft, hlater⟩ := ih hmid
    rw [meet_filter] at hlater
    refine ⟨left, hleft, ?_⟩
    rw [handedOut, List.map_append]
    exact hfirst.trans hlater

theorem meetAll_sink (w : Gate × Assembler) (events : List Gate.Event) :
    (meetAll w events).2.sink = w.2.sink.deliverAll (handedOut w events) := by
  induction events generalizing w with
  | nil => rfl
  | cons event events ih =>
    rw [handedOut, Sink.deliverAll_append, ← meet_sink]
    exact ih (meet w event)

theorem meetAll_filter (w : Gate × Assembler) (events : List Gate.Event) :
    (meetAll w events).2.filter = w.2.filter := by
  induction events generalizing w with
  | nil => rfl
  | cons event events ih => exact (ih (meet w event)).trans (meet_filter w event)

/-- **Messages are framed.** Take a fresh assembler with any filter and any sink, and let anything
happen at its gate. The messages that are handed to the sink are made up of whole fragments that
were processed, in order, none in two messages: each is a SysEx from its first byte to its last, or
a single fragment that opens no SysEx; and where SysEx is ignored none starts as one. Between any
two fragments, once the assembler has taken notice of the gate, nothing is held back unless a SysEx
is in progress that is not ignored, and then what is held back starts as a SysEx does. -/
theorem handedOut_framed (f : Filter) (s : Sink) (g : Gate) (events : List Gate.Event) :
    let start : Gate × Assembler := (g, { filter := f, sink := s, opening := g.opening })
    let after := meetAll start events
    after.2.sink = s.deliverAll (handedOut start events) ∧
    (∃ groups : List (List Bytes),
      (handedOut start events).map (·.bytes) = groups.map List.flatten ∧
        groups.flatten.Sublist (received start events) ∧
        ∀ group ∈ groups, Framed f group) ∧
    (∀ m ∈ handedOut start events, m.bytes ≠ [] ∧
      (f.ignoreSysex = true → m.bytes.head? ≠ some Status.sysexStart)) ∧
    ∀ more : List RawEvent,
      let a := (after.2.notice after.1.opening).processAll more
      (a.continuing = false ∨ f.ignoreSysex = true → a.draft.bytes = []) ∧
        (a.continuing = true → f.ignoreSysex = false →
          a.draft.bytes.head? = some Status.sysexStart) := by
  intro start after
  obtain ⟨left, hafter, groups, hout, hsub, hframed⟩ :=
    Holds.meetAll (w := start) (holds_fresh f s g.opening) events
  refine ⟨meetAll_sink start events, ⟨groups, hout, ?_, hframed⟩, fun m hm => ?_,
    fun more => ?_⟩
  · exact (List.sublist_append_left _ left).trans hsub
  · have hmem : m.bytes ∈ groups.map List.flatten := hout ▸ List.mem_map_of_mem hm
    obtain ⟨group, hgroup, heq⟩ := List.mem_map.mp hmem
    rw [← heq]
    exact (hframed group hgroup).flatten
  · obtain ⟨hinv, -⟩ := hafter.inv.notice after.1.opening
    have hfilter : ((after.2.notice after.1.opening).processAll more).filter = f := by
      rw [processAll_filter, notice_filter]
      exact meetAll_filter start events
    obtain ⟨hempty, hstarts⟩ := hinv.processAll more
    rw [hfilter] at hempty hstarts
    exact ⟨hempty, hstarts⟩

end Assembler

end PatchBay
