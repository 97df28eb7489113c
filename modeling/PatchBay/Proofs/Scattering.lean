import PatchBay.Proofs.Closing
import PatchBay.Proofs.Listening

/-!
# A SysEx in pieces

A SysEx may be cut anywhere, have timing, sensing and empty fragments put in between its pieces, and
arrive in any batches: it is put together to one message, which is handed over at the piece with the
closing byte. The invariant is that until then nothing is handed over, and what is held back are the
pieces so far and what the filter leaves of the fragments between them.
-/

namespace PatchBay

namespace Filter

variable {f : Filter} {x : Bytes}

/-! ## Pieces and interludes -/

theorem share_of_not_aside (hshown : f.ignoreSysex = false) (h : isAside x = false) :
    f.share x = x := by
  unfold share
  cases hm : f.mutes x with
  | true =>
    rw [isAside_of_mutes hm] at h
    cases h
  | false => rw [hshown]; rfl

theorem flatMap_share (hshown : f.ignoreSysex = false) (xs : List Bytes) :
    xs.flatMap f.share = (xs.filter fun x => !f.mutes x).flatten := by
  induction xs with
  | nil => rfl
  | cons x xs ih =>
    rw [List.flatMap_cons, ih, List.filter_cons, share, hshown]
    cases f.mutes x
    · rfl
    · rfl

/-- A fragment without a closing byte does not close a SysEx. -/
theorem closes_of_not_mem (h : Status.sysexEnd ∉ x) : closes x = false := by
  have hlast : (x.getLast? == some Status.sysexEnd) = false := by
    rw [beq_eq_false_iff_ne]
    exact fun hlast => h (List.mem_of_getLast? hlast)
  rw [closes, hlast, Bool.false_and]

end Filter

/-- A fragment that may stand between two pieces of a SysEx: nothing at all, a clock tick, active
sensing, or time code with its data byte. -/
inductive Interlude : Bytes → Prop
  | empty : Interlude []
  | clock : Interlude [Status.timingClock]
  | sensing : Interlude [Status.activeSensing]
  | code {b : UInt8} (hdata : isStatus b = false) : Interlude [Status.timeCode, b]

theorem Interlude.not_mem {x : Bytes} (h : Interlude x) : Status.sysexEnd ∉ x := by
  cases h with
  | empty => exact List.not_mem_nil
  | clock => decide
  | sensing => decide
  | code hdata =>
    intro hmem
    rcases List.mem_cons.mp hmem with heq | hmem
    · cases heq
    · rw [← List.mem_singleton.mp hmem] at hdata
      cases hdata

/-- A SysEx that is cut into pieces, each but the first with the fragments that are put in before
it. -/
structure Scattering where
  data : Bytes
  first : Bytes
  rest : List (List Bytes × Bytes)
  isData : ∀ b ∈ data, isStatus b = false
  first_ne : first ≠ []
  piece_ne : ∀ p ∈ rest, p.2 ≠ []
  interlude : ∀ p ∈ rest, ∀ x ∈ p.1, Interlude x
  whole : first ++ rest.flatMap (·.2) = Status.sysexStart :: (data ++ [Status.sysexEnd])

namespace Scattering

variable {f : Filter} {x : Bytes}

/-- The fragments as they arrive. -/
def fragments (w : Scattering) : List Bytes :=
  w.first :: w.rest.flatMap fun p => p.1 ++ [p.2]

/-- The SysEx with those fragments in their places that the filter does not ignore. -/
def bytes (w : Scattering) (f : Filter) : Bytes :=
  w.first ++ w.rest.flatMap fun p => (p.1.filter fun x => !f.mutes x).flatten ++ p.2

/-- A piece does not start like an aside. -/
theorem isAside_piece (w : Scattering) (h : x ⊆ w.first ++ w.rest.flatMap (·.2)) :
    Filter.isAside x = false := by
  cases x with
  | nil => rfl
  | cons first rest =>
    have hmem := h List.mem_cons_self
    rw [w.whole, List.mem_cons, List.mem_append, List.mem_singleton] at hmem
    rw [Bool.eq_false_iff, ne_eq, Filter.isAside_cons]
    rcases hmem with rfl | hdata | rfl
    · decide
    · have hlow := w.isData first hdata
      rintro (rfl | rfl | rfl)
      · cases hlow
      · cases hlow
      · cases hlow
    · decide

theorem isAside_first (w : Scattering) : Filter.isAside w.first = false :=
  w.isAside_piece (List.subset_append_left _ _)

theorem isAside_rest (w : Scattering) {p : List Bytes × Bytes} (hp : p ∈ w.rest) :
    Filter.isAside p.2 = false :=
  w.isAside_piece fun _ hb => List.mem_append_right _ (List.mem_flatMap.mpr ⟨p, hp, hb⟩)

theorem bytes_eq (w : Scattering) (hshown : f.ignoreSysex = false) :
    w.bytes f = w.fragments.flatMap f.share := by
  have hrest : ∀ ps : List (List Bytes × Bytes), (∀ p ∈ ps, p ∈ w.rest) →
      (ps.flatMap fun p => (p.1.filter fun x => !f.mutes x).flatten ++ p.2) =
        (ps.flatMap fun p => p.1 ++ [p.2]).flatMap f.share := by
    intro ps hps
    induction ps with
    | nil => rfl
    | cons p ps ih =>
      have hp := Filter.share_of_not_aside hshown (w.isAside_rest (hps p List.mem_cons_self))
      rw [List.flatMap_cons, List.flatMap_cons, List.flatMap_append, List.flatMap_append,
        List.flatMap_singleton, hp, Filter.flatMap_share hshown,
        ih fun q hq => hps q (List.mem_cons_of_mem _ hq)]
  have hfirst := Filter.share_of_not_aside hshown w.isAside_first
  rw [bytes, fragments, List.flatMap_cons, hfirst, hrest w.rest fun _ hp => hp]

/-- The closing byte stands at the end of the last piece and nowhere else. -/
theorem exists_last (w : Scattering) :
    ∃ earlier last, w.fragments = earlier ++ [last] ∧ last.getLast? = some Status.sysexEnd ∧
      Filter.isAside last = false ∧ ∀ x ∈ earlier, Status.sysexEnd ∉ x := by
  -- the SysEx but for its closing byte
  have hopen : Status.sysexEnd ∉ Status.sysexStart :: w.data := by
    intro hmem
    rcases List.mem_cons.mp hmem with heq | hdata
    · cases heq
    · have hlow := w.isData _ hdata
      cases hlow
  have hwhole := w.whole
  rcases List.eq_nil_or_concat w.rest with hnil | ⟨before, p, hconcat⟩
  · refine ⟨[], w.first, by rw [fragments, hnil]; rfl, ?_, w.isAside_first, nofun⟩
    rw [hnil, List.flatMap_nil, List.append_nil] at hwhole
    rw [hwhole, ← List.cons_append, List.getLast?_concat]
  · rw [List.concat_eq_append] at hconcat
    have hp : p ∈ w.rest := by
      rw [hconcat]
      exact List.mem_append_right _ List.mem_cons_self
    obtain ⟨front, b, hpiece⟩ := (List.eq_nil_or_concat p.2).resolve_left (w.piece_ne p hp)
    rw [List.concat_eq_append] at hpiece
    rw [hconcat, List.flatMap_append, List.flatMap_singleton, hpiece, ← List.append_assoc,
      ← List.append_assoc, ← List.cons_append] at hwhole
    obtain ⟨hfront, hb⟩ := List.append_inj' hwhole rfl
    refine ⟨w.first :: (before.flatMap fun p => p.1 ++ [p.2]) ++ p.1, p.2, ?_, ?_,
      w.isAside_rest hp, fun x hx hmem => ?_⟩
    · rw [fragments, hconcat, List.flatMap_append, List.flatMap_singleton, ← List.append_assoc]
      rfl
    · rw [hpiece, List.getLast?_concat, List.cons.inj hb |>.1]
    · have hinside : Status.sysexEnd ∉ w.first ++ before.flatMap (·.2) := fun hmem =>
        hopen (hfront ▸ List.mem_append_left front hmem)
      have hrest : ∀ q ∈ before, q ∈ w.rest := fun q hq => by
        rw [hconcat]
        exact List.mem_append_left _ hq
      rw [List.mem_append, List.mem_cons, List.mem_flatMap] at hx
      rcases hx with (rfl | ⟨q, hq, hx⟩) | hx
      · exact hinside (List.mem_append_left _ hmem)
      · rcases List.mem_append.mp hx with hx | hx
        · exact (w.interlude q (hrest q hq) x hx).not_mem hmem
        · rw [List.mem_singleton.mp hx] at hmem
          exact hinside (List.mem_append_right _ (List.mem_flatMap.mpr ⟨q, hq, hmem⟩))
      · exact (w.interlude p hp x hx).not_mem hmem

theorem head?_fragments (w : Scattering) :
    ∃ rest, w.fragments = w.first :: rest ∧ w.first.head? = some Status.sysexStart := by
  refine ⟨_, rfl, ?_⟩
  obtain ⟨b, rest, hfirst⟩ := List.exists_cons_of_ne_nil w.first_ne
  have hwhole := w.whole
  rw [hfirst, List.cons_append] at hwhole
  rw [hfirst, List.head?_cons, (List.cons.inj hwhole).1]

end Scattering

namespace Assembler

variable {a : Assembler} {last : RawEvent}

theorem notice_idle (hc : a.continuing = false) (opening : UInt64) :
    (a.notice opening).continuing = false := by
  unfold notice
  split
  · exact hc
  · rfl

/-! ## One piece after the other -/

/-- What is held back once the first piece has opened the SysEx and nothing has closed it. -/
theorem pending_open (hc : a.continuing = false) {es : List RawEvent}
    (hopen : ∀ e ∈ es.head?, e.fragment.head? = some Status.sysexStart)
    (hend : ∀ e ∈ es, Status.sysexEnd ∉ e.fragment) :
    a.handed es = [] ∧
      (a.processAll es).pending = (es.map (·.fragment)).flatMap a.filter.share := by
  cases es with
  | nil =>
    refine ⟨rfl, ?_⟩
    rw [processAll_nil, pending, hc, if_neg Bool.false_ne_true]
    rfl
  | cons e es =>
    have hopens : Filter.opens e.fragment = true := by
      have hlast : e.fragment.getLast? ≠ some Status.sysexEnd := fun hlast =>
        hend e List.mem_cons_self (List.mem_of_getLast? hlast)
      simp [Filter.opens, hopen e rfl, hlast]
    have hbegun : (a.process e).continuing = true := by
      rw [process_continuing_eq, hopens]
      rfl
    obtain ⟨hnone, hdraft⟩ := process_open hbegun
    rw [pending, hc, if_neg Bool.false_ne_true, List.nil_append] at hdraft
    obtain ⟨-, hrest, hpending⟩ := processAll_inside hbegun fun x hx =>
      Filter.closes_of_not_mem (hend x (List.mem_cons_of_mem _ hx))
    refine ⟨by rw [handed, hnone, hrest]; rfl, ?_⟩
    rw [processAll_cons, hpending, pending, hbegun, if_pos rfl, hdraft, process_filter,
      List.map_cons, List.flatMap_cons, List.flatMap_map]

/-- A SysEx in pieces is handed over at the last one. -/
theorem emitted_scattered (w : Scattering) (hc : a.continuing = false)
    (hshown : a.filter.ignoreSysex = false) {es : List RawEvent}
    (hes : (es ++ [last]).map (·.fragment) = w.fragments) :
    a.handed es = [] ∧ ((a.processAll es).process last).continuing = false ∧
      (a.processAll es).emitted? last = some
        ⟨((a.processAll es).stamper.stamp last.time).1, w.bytes a.filter⟩ := by
  obtain ⟨earlier, piece, hpieces, hpiece, haside, hnone⟩ := w.exists_last
  obtain ⟨rest, hfirst, hhead⟩ := w.head?_fragments
  have hbytes := w.bytes_eq hshown
  rw [hpieces, List.map_append] at hes
  obtain ⟨hearlier, hlast⟩ := List.append_inj' hes rfl
  replace hlast : last.fragment = piece := List.head_eq_of_cons_eq hlast
  have hopen : ∀ e ∈ es.head?, e.fragment.head? = some Status.sysexStart := by
    intro e he
    cases es with
    | nil => cases he
    | cons e' es =>
      rw [hpieces, ← hearlier, List.map_cons, List.cons_append] at hfirst
      rw [← Option.some.inj he, (List.cons.inj hfirst).1]
      exact hhead
  have hend : ∀ e ∈ es, Status.sysexEnd ∉ e.fragment := fun e he =>
    hnone _ (hearlier ▸ List.mem_map_of_mem he)
  obtain ⟨hhanded, hpending⟩ := pending_open hc hopen hend
  have hfilter := processAll_filter a es
  have hclosed : ((a.processAll es).process last).continuing = false := by
    rw [process_continuing_eq, hlast, Filter.opens, Filter.closes, hpiece, haside]
    simp
  have hne : last.fragment ≠ [] := fun hnil => by
    rw [← hlast, hnil] at hpiece
    cases hpiece
  have hmuted : a.filter.mutes last.fragment = false := by
    rw [Bool.eq_false_iff]
    intro hm
    rw [hlast] at hm
    rw [Filter.isAside_of_mutes hm] at haside
    cases haside
  refine ⟨hhanded, hclosed, ?_⟩
  rw [emitted_closed hne hclosed (hfilter ▸ hshown) (hfilter ▸ hmuted), hpending, hbytes, hpieces,
    hearlier, hlast, List.flatMap_append, List.flatMap_singleton,
    Filter.share_of_not_aside hshown haside]

end Assembler

namespace Listener

variable {l : Listener} {t : Turn} {ts : List Turn}

/-! ## In batches -/

/-- The fragment that arrives in a turn. -/
def Turn.event? : Turn → Option RawEvent
  | .fragment e => some e
  | _ => none

/-- Whether a batch that the gate lets in is begun in a turn, or one past the gate. -/
def Turn.Begins (g : Gate) : Turn → Prop
  | .batch port => g.active = some port
  | .given => True
  | _ => False

/-- A batch is at hand, and the assembler has seen the opening of the gate. -/
structure Attends (l : Listener) : Prop where
  admitted : l.admitted = true
  seen : l.gate.opening = l.assembler.opening

theorem turn_begins (h : t.Begins l.gate) :
    l.turn t = { l with assembler := l.assembler.notice l.gate.opening, admitted := true } := by
  cases t with
  | batch port =>
    have hopen : l.gate.active = some port := h
    rw [turn, Assembler.accept_open hopen, hopen]
    simp
  | given => rfl
  | opened | closed | fragment | receive => cases h

theorem emits_begins (h : t.Begins l.gate) : l.emits t = [] := by
  cases t with
  | batch | given => rfl
  | opened | closed | fragment | receive => cases h

theorem event?_begins {g : Gate} (h : t.Begins g) : t.event? = none := by
  cases t with
  | fragment e => cases h
  | _ => rfl

theorem Attends.fragment (h : l.Attends) (e : RawEvent) : (l.turn (.fragment e)).Attends := by
  rw [turn_admitted h.admitted]
  refine ⟨h.admitted, ?_⟩
  rw [Assembler.process_opening]
  exact h.seen

/-- Where the batches begin makes no difference to an assembler that has seen the opening. -/
theorem Attends.turns (h : l.Attends) (hts : ∀ t ∈ ts, t.Begins l.gate ∨ ∃ e, t = .fragment e) :
    l.turns ts = { l with assembler := l.assembler.processAll (ts.filterMap Turn.event?) } ∧
      (l.along emits ts).map (·.message) = l.assembler.handed (ts.filterMap Turn.event?) := by
  induction ts generalizing l with
  | nil => exact ⟨rfl, rfl⟩
  | cons t ts ih =>
    have hrest := fun x hx => hts x (List.mem_cons_of_mem t hx)
    rw [Listener.turns, List.foldl_cons, ← Listener.turns, along, List.map_append]
    rcases hts t List.mem_cons_self with hbegins | ⟨e, rfl⟩
    · have hsame : l.turn t = l := by
        rw [turn_begins hbegins, Assembler.notice_seen h.seen, ← h.admitted]
      obtain ⟨hturns, hemits⟩ := ih h hrest
      rw [hsame, emits_begins hbegins, List.filterMap_cons_none (event?_begins hbegins)]
      exact ⟨hturns, hemits⟩
    · obtain ⟨hturns, hemits⟩ := ih (h.fragment e) (by rwa [turn_admitted h.admitted])
      have hprocesses : l.processes (.fragment e) = [e] := if_pos h.admitted
      have hsome : Turn.event? (.fragment e) = some e := rfl
      have hmessages : ((l.assembler.emitted? e).toList.map fun m =>
          (⟨m, l.assembler.sink⟩ : Emission)).map (·.message) =
            (l.assembler.emitted? e).toList := by
        rw [List.map_map]
        exact List.map_id _
      rw [hturns, hemits, turn_admitted h.admitted, emits_processing hprocesses, hmessages,
        List.filterMap_cons_some hsome, Assembler.handed]
      exact ⟨rfl, rfl⟩

/-- The turns of batches: each is begun, and then its fragments arrive. -/
def batchTurns (batches : List (Turn × List RawEvent)) : List Turn :=
  batches.flatMap fun b => b.1 :: b.2.map .fragment

theorem mem_batchTurns {batches : List (Turn × List RawEvent)} {g : Gate}
    (hbegins : ∀ b ∈ batches, b.1.Begins g) (ht : t ∈ batchTurns batches) :
    t.Begins g ∨ ∃ e, t = .fragment e := by
  obtain ⟨b, hb, hmem⟩ := List.mem_flatMap.mp ht
  rcases List.mem_cons.mp hmem with rfl | hmem
  · exact .inl (hbegins b hb)
  · obtain ⟨e, -, rfl⟩ := List.mem_map.mp hmem
    exact .inr ⟨e, rfl⟩

theorem filterMap_batchTurns {batches : List (Turn × List RawEvent)} {g : Gate}
    (hbegins : ∀ b ∈ batches, b.1.Begins g) :
    (batchTurns batches).filterMap Turn.event? = batches.flatMap (·.2) := by
  induction batches with
  | nil => rfl
  | cons b batches ih =>
    have hnone := event?_begins (hbegins b List.mem_cons_self)
    have hfragments : (b.2.map Turn.fragment).filterMap Turn.event? = b.2 := by
      rw [List.filterMap_map]
      exact List.filterMap_some
    rw [batchTurns, List.flatMap_cons, ← batchTurns, List.filterMap_append,
      List.filterMap_cons_none hnone, hfragments, List.flatMap_cons,
      ih fun x hx => hbegins x (List.mem_cons_of_mem _ hx)]

/-- A run that begins with a batch. -/
theorem turns_begun (hbegins : t.Begins l.gate)
    (hts : ∀ t ∈ ts, t.Begins l.gate ∨ ∃ e, t = .fragment e) :
    l.turns (t :: ts) =
        { l with
          assembler := (l.assembler.notice l.gate.opening).processAll (ts.filterMap Turn.event?)
          admitted := true } ∧
      (l.along emits (t :: ts)).map (·.message) =
        (l.assembler.notice l.gate.opening).handed (ts.filterMap Turn.event?) := by
  have hattends : (l.turn t).Attends := by
    rw [turn_begins hbegins]
    exact ⟨rfl, (Assembler.notice_opening _ _).symm⟩
  have hkinds : ∀ x ∈ ts, x.Begins (l.turn t).gate ∨ ∃ e, x = .fragment e := by
    rwa [turn_begins hbegins]
  obtain ⟨hturns, hemits⟩ := hattends.turns hkinds
  rw [turns, List.foldl_cons, ← turns, along, emits_begins hbegins, List.nil_append, hturns, hemits,
    turn_begins hbegins]
  exact ⟨rfl, rfl⟩

/-- What begins the first batch is the first turn. -/
theorem exists_first_turn {batches : List (Turn × List RawEvent)} {g : Gate} {e : RawEvent}
    {earlier later : List Turn} (hbegins : ∀ b ∈ batches, b.1.Begins g)
    (h : batchTurns batches = earlier ++ .fragment e :: later) :
    ∃ t ts, earlier = t :: ts ∧ t.Begins g := by
  cases batches with
  | nil =>
    rw [batchTurns, List.flatMap_nil] at h
    simp at h
  | cons b batches =>
    have hb := hbegins b List.mem_cons_self
    rw [batchTurns, List.flatMap_cons, List.cons_append] at h
    cases earlier with
    | nil =>
      rw [(List.cons.inj h).1] at hb
      cases hb
    | cons t ts => exact ⟨t, ts, rfl, (List.cons.inj h).1 ▸ hb⟩

/-- The turn in which the last of some fragments arrives. -/
theorem exists_last_turn {es : List RawEvent} {last : RawEvent}
    (h : ts.filterMap Turn.event? = es ++ [last]) :
    ∃ earlier later, ts = earlier ++ .fragment last :: later ∧
      earlier.filterMap Turn.event? = es ∧ later.filterMap Turn.event? = [] := by
  obtain ⟨before, behind, rfl, hbefore, hbehind⟩ := List.filterMap_eq_append_iff.mp h
  obtain ⟨idle, t, later, rfl, hidle, ht, hlater⟩ := List.filterMap_eq_cons_iff.mp hbehind
  have hfragment : t = .fragment last := by
    cases t with
    | fragment e => rw [Option.some.inj ht]
    | _ => cases ht
  refine ⟨before ++ idle, later, ?_, ?_, hlater⟩
  · rw [hfragment, List.append_assoc]
  · rw [List.filterMap_append, hbefore, List.filterMap_eq_nil_iff.mpr hidle, List.append_nil]

/-- A run that begins with a batch, in which the last fragment is the one that completes a
message. -/
theorem turns_completed {es : List RawEvent} {last : RawEvent} {later : List Turn} {m : Message}
    (hbegin : t.Begins l.gate)
    (hkinds : ∀ x ∈ ts ++ later, x.Begins l.gate ∨ ∃ e, x = .fragment e)
    (hes : ts.filterMap Turn.event? = es) (hlater : later.filterMap Turn.event? = [])
    (hquiet : (l.assembler.notice l.gate.opening).handed es = [])
    (hm : ((l.assembler.notice l.gate.opening).processAll es).emitted? last = some m) :
    l.along emits (t :: ts) = [] ∧
      (l.turns (t :: ts)).emits (.fragment last) = [⟨m, l.assembler.sink⟩] ∧
      (l.turns (t :: ts ++ [.fragment last])).along emits later = [] ∧
      (l.turns (t :: ts ++ .fragment last :: later)).assembler =
        ((l.assembler.notice l.gate.opening).processAll es).process last := by
  obtain ⟨hturns, hemits⟩ := turns_begun hbegin fun x hx => hkinds x (List.mem_append_left _ hx)
  rw [hes] at hturns hemits
  have hattends : (l.turns (t :: ts)).Attends := by
    rw [hturns]
    refine ⟨rfl, ?_⟩
    rw [Assembler.processAll_opening, Assembler.notice_opening]
  have hsink : (l.turns (t :: ts)).assembler.sink = l.assembler.sink := by
    rw [hturns, Assembler.processAll_sink, hquiet, Assembler.notice_sink]
    rfl
  have hprocesses : (l.turns (t :: ts)).processes (.fragment last) = [last] :=
    if_pos hattends.admitted
  have hnext := turn_admitted hattends.admitted last
  have hgate : ((l.turns (t :: ts)).turn (.fragment last)).gate = l.gate := by rw [hnext, hturns]
  have hrest : ∀ x ∈ later,
      x.Begins ((l.turns (t :: ts)).turn (.fragment last)).gate ∨ ∃ e, x = .fragment e := by
    rw [hgate]
    exact fun x hx => hkinds x (List.mem_append_right _ hx)
  obtain ⟨hafter, hsilent⟩ := (hattends.fragment last).turns hrest
  rw [hlater] at hafter hsilent
  refine ⟨?_, ?_, ?_, ?_⟩
  · rw [hquiet] at hemits
    exact List.map_eq_nil_iff.mp hemits
  · rw [emits_processing hprocesses, hsink, hturns, hm]
    rfl
  · rw [turns_concat]
    exact List.map_eq_nil_iff.mp hsilent
  · have hrun : l.turns (t :: ts ++ .fragment last :: later) =
        ((l.turns (t :: ts)).turn (.fragment last)).turns later := List.foldl_append
    rw [hrun, hafter, hnext, hturns]
    rfl

/-- **A SysEx is put together however it arrives.** Take a listener at which no SysEx is in
progress and SysEx is not ignored. A SysEx of data bytes arrives in any pieces, with any timing,
sensing and empty fragments between them, in any batches. Then one message is handed to the sink,
at the fragment with the closing byte: the SysEx, in which those of the fragments in between that
are not ignored stand in their places. Nothing is handed over before or after it, and behind it no
SysEx is in progress. -/
theorem scattered_sysex (w : Scattering) (l : Listener) (batches : List (Turn × List RawEvent))
    (hc : l.assembler.continuing = false) (hshown : l.assembler.filter.ignoreSysex = false)
    (hbegins : ∀ b ∈ batches, b.1.Begins l.gate)
    (harrives : (batches.flatMap (·.2)).map (·.fragment) = w.fragments) :
    ∃ earlier last later m, batchTurns batches = earlier ++ .fragment last :: later ∧
      Status.sysexEnd ∈ last.fragment ∧
      (∀ e, .fragment e ∈ earlier → Status.sysexEnd ∉ e.fragment) ∧
      m.bytes = w.bytes l.assembler.filter ∧
      l.along emits earlier = [] ∧
      (l.turns earlier).emits (.fragment last) = [⟨m, l.assembler.sink⟩] ∧
      (l.turns (earlier ++ [.fragment last])).along emits later = [] ∧
      (l.turns (batchTurns batches)).assembler.continuing = false ∧
      (l.turns (batchTurns batches)).assembler.sink = (l.assembler.sink.deliver m).2 := by
  obtain ⟨pieces, piece, hpieces, hlast, -, hnone⟩ := w.exists_last
  have hevents := filterMap_batchTurns hbegins
  -- the fragments but for the last one
  obtain ⟨es, last, hes⟩ : ∃ es last, batches.flatMap (·.2) = es ++ [last] := by
    rcases List.eq_nil_or_concat (batches.flatMap (·.2)) with hnil | ⟨es, last, hconcat⟩
    · rw [hnil, hpieces] at harrives
      simp at harrives
    · exact ⟨es, last, by rw [hconcat, List.concat_eq_append]⟩
  rw [hes] at hevents harrives
  have hboth := harrives
  rw [hpieces, List.map_append] at hboth
  obtain ⟨hmap, hsingle⟩ := List.append_inj' hboth rfl
  have hpiece : last.fragment = piece := List.head_eq_of_cons_eq hsingle
  obtain ⟨earlier, later, hsplit, hearlier, hlater⟩ := exists_last_turn hevents
  -- the first turn begins a batch, so the run starts with an assembler that has noticed
  obtain ⟨t, ts, rfl, hbegin⟩ := exists_first_turn hbegins hsplit
  have htail : ts.filterMap Turn.event? = es := by
    rwa [List.filterMap_cons_none (event?_begins hbegin)] at hearlier
  have hkinds : ∀ x ∈ ts ++ later, x.Begins l.gate ∨ ∃ e, x = .fragment e := fun x hx => by
    refine mem_batchTurns hbegins ?_
    rw [hsplit, List.mem_append, List.mem_cons, List.mem_cons]
    rcases List.mem_append.mp hx with hx | hx
    · exact .inl (.inr hx)
    · exact .inr (.inr hx)
  have hfilter := l.assembler.notice_filter l.gate.opening
  obtain ⟨hquiet, hclosed, hemitted⟩ := Assembler.emitted_scattered w
    (Assembler.notice_idle hc l.gate.opening) (hfilter ▸ hshown) harrives
  rw [hfilter] at hemitted
  obtain ⟨m, hbytes, hm⟩ : ∃ m : Message, m.bytes = w.bytes l.assembler.filter ∧
      ((l.assembler.notice l.gate.opening).processAll es).emitted? last = some m :=
    ⟨_, rfl, hemitted⟩
  obtain ⟨hbefore, hat, hbehind, hwhole⟩ :=
    turns_completed hbegin hkinds htail hlater hquiet hm
  rw [← hsplit] at hwhole
  refine ⟨t :: ts, last, later, m, hsplit, ?_, fun e he => ?_, hbytes, hbefore, hat, hbehind, ?_,
    ?_⟩
  · exact hpiece ▸ List.mem_of_getLast? hlast
  · refine hnone _ (hmap ▸ List.mem_map_of_mem (hearlier ▸ ?_))
    exact List.mem_filterMap.mpr ⟨_, he, rfl⟩
  · rw [hwhole, hclosed]
  · rw [hwhole, Assembler.process_sink, hm, Assembler.processAll_sink, hquiet,
      Assembler.notice_sink]
    rfl

/-- A SysEx in three pieces with a clock tick, time code, an empty fragment and active sensing
between them. -/
def ticking : Scattering where
  data := [0x01]
  first := [0xF0]
  rest := [([[0xF8], [], [0xF1, 0x02]], [0x01]), ([[0xFE]], [0xF7])]
  isData := by
    rw [List.forall_mem_singleton]
    rfl
  first_ne := by decide
  piece_ne := by decide
  interlude := by
    rw [List.forall_mem_cons, List.forall_mem_singleton]
    refine ⟨?_, fun x hx => List.mem_singleton.mp hx ▸ .sensing⟩
    rw [List.forall_mem_cons, List.forall_mem_cons, List.forall_mem_singleton]
    exact ⟨.clock, .empty, .code rfl⟩
  whole := rfl

/-- It is put together from three batches, without the active sensing that the filter ignores. -/
theorem scattered_sysex_ticking :
    let f : Filter := { ignoreSysex := false, ignoreTiming := false }
    let l : Listener := .fresh f (.callback []) ((default : Gate).activate ⟨3⟩)
    let batches : List (Turn × List RawEvent) :=
      [(.batch ⟨3⟩, RawEvent.batch {} [[0xF0]]), (.given, RawEvent.batch {} [[0xF8], []]),
        (.batch ⟨3⟩, RawEvent.batch {} [[0xF1, 0x02], [0x01], [0xFE], [0xF7]])]
    l.assembler.continuing = false ∧ f.ignoreSysex = false ∧
      (∀ b ∈ batches, b.1.Begins l.gate) ∧
      (batches.flatMap (·.2)).map (·.fragment) = ticking.fragments ∧
      ∃ m, m.bytes = [0xF0, 0xF8, 0xF1, 0x02, 0x01, 0xF7] ∧
        (l.turns (batchTurns batches)).assembler.continuing = false ∧
        (l.turns (batchTurns batches)).assembler.sink = .callback [m] := by
  intro f l batches
  have hbegins : ∀ b ∈ batches, b.1.Begins l.gate := by
    rw [List.forall_mem_cons, List.forall_mem_cons, List.forall_mem_singleton]
    exact ⟨rfl, trivial, rfl⟩
  have harrives : (batches.flatMap (·.2)).map (·.fragment) = ticking.fragments := rfl
  obtain ⟨_, _, _, m, -, -, -, hm, -, -, -, hc, hsink⟩ :=
    scattered_sysex ticking l batches rfl rfl hbegins harrives
  exact ⟨rfl, rfl, hbegins, harrives, m, hm, hc, hsink⟩

end Listener

end PatchBay
