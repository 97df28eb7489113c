import PatchBay.Proofs.Listening

/-!
# Every fragment and every message is accounted for

Whatever turns the driver and the client take, each fragment that is processed is empty, or
suppressed, or part of a message that is handed over, or part of the one that is being built, or it
was forgotten at an opening of the gate; and each message that is handed over is received, or waits,
or is lost because the queue is full. The counters say how many of each there were.

A counter is compared with a list that is written down along a run: each turn adds to the one what
it adds to the other. The fragments of messages are kept in books that follow the draft.
-/

namespace PatchBay

namespace Assembler

variable {a : Assembler} {e : RawEvent} {m : Message}

/-! ## The counters after one fragment -/

theorem tally_rest (a : Assembler) (x : Bytes) :
    (a.tally x).delivered = a.counters.delivered ∧ (a.tally x).dropped = a.counters.dropped ∧
      (a.tally x).overflows = a.counters.overflows := by
  unfold tally countRestarted countSuppressed
  split <;> split <;> exact ⟨rfl, rfl, rfl⟩

theorem process_dropped (a : Assembler) (e : RawEvent) :
    (a.process e).counters.dropped =
      if e.fragment = [] then a.counters.dropped + 1 else a.counters.dropped := by
  by_cases h : e.fragment = []
  · rw [process_nil h, if_pos h]
  have htally := (a.tally_rest e.fragment).2.1
  rw [if_neg h]
  cases hd : (a.judge e.fragment).1.deliver
  · rw [process_held h hd]
    exact htally
  · rw [process_complete h hd, emit]
    dsimp only
    split
    · exact htally
    · exact htally

/-- Where no message is handed over, none is counted. -/
theorem process_counters_none (h : a.emitted? e = none) :
    (a.process e).counters.delivered = a.counters.delivered ∧
      (a.process e).counters.overflows = a.counters.overflows := by
  have hd : (a.judge e.fragment).1.deliver = false := by
    by_contra hd
    rw [emitted?, if_pos (by simpa using hd)] at h
    cases h
  by_cases hx : e.fragment = []
  · rw [process_nil hx]
    exact ⟨rfl, rfl⟩
  · rw [process_held hx hd]
    exact ⟨(a.tally_rest _).1, (a.tally_rest _).2.2⟩

/-- A message that is handed over is counted as delivered or as lost, as the sink has it. -/
theorem process_counters_some (h : a.emitted? e = some m) :
    (a.process e).counters.delivered =
        (if (a.sink.deliver m).1 then a.counters.delivered + 1 else a.counters.delivered) ∧
      (a.process e).counters.overflows =
        if (a.sink.deliver m).1 then a.counters.overflows else a.counters.overflows + 1 := by
  obtain ⟨hdelivered, -, hoverflows⟩ := a.tally_rest e.fragment
  rw [emitted?] at h
  split at h
  · rename_i hd
    cases h
    have hx : e.fragment ≠ [] := fun hx => by rw [hx, judge_deliver_nil] at hd; cases hd
    rw [process_complete hx hd, emit]
    dsimp only
    split
    · exact ⟨congrArg (· + 1) hdelivered, hoverflows⟩
    · exact ⟨hdelivered, congrArg (· + 1) hoverflows⟩
  · cases h

end Assembler

namespace Listener

variable {l : Listener} {t : Turn} {e : RawEvent} {α : Type}

/-! ## What is counted -/

/-- The empty fragments. -/
def empties (l : Listener) (t : Turn) : List RawEvent :=
  (l.processes t).filter (·.fragment = [])

/-- The fragments that the filter drops. -/
def suppresses (l : Listener) (t : Turn) : List RawEvent :=
  (l.processes t).filter fun e => e.fragment ≠ [] && !(l.assembler.judge e.fragment).1.accumulate

/-- The fragments that start as a SysEx does while a SysEx is in progress. -/
def restarts (l : Listener) (t : Turn) : List RawEvent :=
  (l.processes t).filter fun e =>
    l.assembler.continuing && e.fragment.head? == some Status.sysexStart

/-- The messages that the sink takes. -/
def takes (l : Listener) (t : Turn) : List Emission := (l.emits t).filter (·.taken)

/-- The messages that the sink does not take. -/
def loses (l : Listener) (t : Turn) : List Emission := (l.emits t).filter (!·.taken)

/-- A counter counts what is written down along a run if each fragment moves it on by what is
written down for the fragment, and nothing is written down in a turn without one. The counter of
batches that are not let in is none of these. -/
theorem turns_count (counter : Counters → UInt64) {what : Listener → Turn → List α}
    (hidle : ∀ c n, counter { c with inactive := n } = counter c)
    (hnothing : ∀ l t, l.processes t = [] → what l t = [])
    (hcount : ∀ l t e, l.processes t = [e] →
      counter (l.assembler.process e).counters =
        counter l.assembler.counters + UInt64.ofNat (what l t).length)
    (l : Listener) (ts : List Turn) :
    counter (l.turns ts).assembler.counters =
      counter l.assembler.counters + UInt64.ofNat (l.along what ts).length := by
  induction ts using List.reverseRecOn with
  | nil => exact (UInt64.add_zero _).symm
  | append_singleton ts t ih =>
    rw [turns_concat, along_concat, List.length_append, UInt64.ofNat_add, ← UInt64.add_assoc, ← ih]
    rcases (l.turns ts).processes_cases t with hnone | ⟨e, hprocesses, hturn⟩
    · obtain ⟨n, hcounters⟩ := (turn_idle hnone).2
      rw [hcounters, hidle, hnothing _ _ hnone]
      exact (UInt64.add_zero _).symm
    · rw [hturn, hcount _ _ _ hprocesses]

theorem turns_dropped (l : Listener) (ts : List Turn) :
    (l.turns ts).assembler.counters.dropped =
      l.assembler.counters.dropped + UInt64.ofNat (l.along empties ts).length := by
  refine turns_count Counters.dropped (fun _ _ => rfl) ?_ ?_ l ts
  · intro l t h
    rw [empties, h, List.filter_nil]
  · intro l t e h
    rw [Assembler.process_dropped, empties, h]
    by_cases hx : e.fragment = []
    · simp [hx]
    · simp [hx]

theorem turns_suppressed (l : Listener) (ts : List Turn) :
    (l.turns ts).assembler.counters.suppressed =
      l.assembler.counters.suppressed + UInt64.ofNat (l.along suppresses ts).length := by
  refine turns_count Counters.suppressed (fun _ _ => rfl) ?_ ?_ l ts
  · intro l t h
    rw [suppresses, h, List.filter_nil]
  · intro l t e h
    rw [suppresses, h]
    by_cases hx : e.fragment = []
    · rw [Assembler.process_nil hx]
      simp [hx]
    · rw [Assembler.process_suppressed hx]
      cases hkept : (l.assembler.judge e.fragment).1.accumulate <;> simp [hx, hkept]

theorem turns_restarted (l : Listener) (ts : List Turn) :
    (l.turns ts).assembler.counters.restarted =
      l.assembler.counters.restarted + UInt64.ofNat (l.along restarts ts).length := by
  refine turns_count Counters.restarted (fun _ _ => rfl) ?_ ?_ l ts
  · intro l t h
    rw [restarts, h, List.filter_nil]
  · intro l t e h
    have hkind : ((l.assembler.judge e.fragment).1.kind == .sysexStart) =
        (e.fragment.head? == some Status.sysexStart) := by
      rw [Bool.eq_iff_iff, beq_iff_eq, beq_iff_eq]
      exact Filter.apply_kind_sysexStart _ _ _
    rw [Assembler.process_restarted, hkind, restarts, h]
    cases hin : l.assembler.continuing && e.fragment.head? == some Status.sysexStart <;> simp [hin]

theorem turns_delivered (l : Listener) (ts : List Turn) :
    (l.turns ts).assembler.counters.delivered =
      l.assembler.counters.delivered + UInt64.ofNat (l.along takes ts).length := by
  refine turns_count Counters.delivered (fun _ _ => rfl) ?_ ?_ l ts
  · intro l t h
    rw [takes, emits_idle h, List.filter_nil]
  · intro l t e h
    rw [takes, emits_processing h]
    cases hm : l.assembler.emitted? e with
    | none =>
      rw [(Assembler.process_counters_none hm).1]
      simp
    | some m =>
      rw [(Assembler.process_counters_some hm).1]
      cases htaken : (l.assembler.sink.deliver m).1 <;> simp [Emission.taken, htaken]

theorem turns_overflows (l : Listener) (ts : List Turn) :
    (l.turns ts).assembler.counters.overflows =
      l.assembler.counters.overflows + UInt64.ofNat (l.along loses ts).length := by
  refine turns_count Counters.overflows (fun _ _ => rfl) ?_ ?_ l ts
  · intro l t h
    rw [loses, emits_idle h, List.filter_nil]
  · intro l t e h
    rw [loses, emits_processing h]
    cases hm : l.assembler.emitted? e with
    | none =>
      rw [(Assembler.process_counters_none hm).2]
      simp
    | some m =>
      rw [(Assembler.process_counters_some hm).2]
      cases htaken : (l.assembler.sink.deliver m).1 <;> simp [Emission.taken, htaken]

end Listener

/-! ## The fragments of messages -/

/-- Where the fragments went that were neither empty nor suppressed. -/
structure Books where
  /-- For each message that was handed over, in order, the fragments that it is made of. -/
  groups : List (List Bytes) := []
  /-- The fragments of the message being built. -/
  held : List Bytes := []
  /-- The fragments that were forgotten at openings of the gate. -/
  discarded : List Bytes := []

namespace Books

/-- Files a fragment as the filter decides. -/
def file (b : Books) (d : Decision) (x : Bytes) : Books :=
  if d.deliver then { b with groups := b.groups ++ [b.held ++ [x]], held := [] }
  else if d.accumulate then { b with held := b.held ++ [x] }
  else b

/-- Forgets the message being built. -/
def discard (b : Books) : Books := { b with held := [], discarded := b.discarded ++ b.held }

/-- All fragments in the books. -/
def all (b : Books) : List Bytes := b.groups.flatten ++ b.held ++ b.discarded

theorem file_complete (b : Books) {d : Decision} (hd : d.deliver = true) (x : Bytes) :
    b.file d x = { b with groups := b.groups ++ [b.held ++ [x]], held := [] } := if_pos hd

theorem file_held (b : Books) {d : Decision} (hd : d.deliver = false) (x : Bytes) :
    b.file d x = { b with held := b.held ++ if d.accumulate then [x] else [] } := by
  rw [file, hd, if_neg Bool.false_ne_true]
  split
  · rfl
  · rw [List.append_nil]

theorem file_all (b : Books) {d : Decision} (h : d.deliver = true → d.accumulate = true)
    (x : Bytes) : (b.file d x).all.Perm (b.all ++ if d.accumulate then [x] else []) := by
  rw [List.perm_iff_count]
  intro y
  cases hd : d.deliver
  · rw [file_held b hd]
    simp only [all, List.count_append]
    omega
  · rw [file_complete b hd, if_pos (h hd)]
    simp only [all, List.flatten_append, List.flatten_singleton, List.count_append, List.append_nil]
    omega

theorem discard_all (b : Books) : b.discard.all.Perm b.all := by
  rw [List.perm_iff_count]
  intro y
  simp only [all, discard, List.count_append, List.count_nil]
  omega

end Books

namespace Listener

variable {l : Listener} {b : Books} {emitted : List Emission}

/-- Whether the message being built is forgotten in a turn. -/
def forgets (l : Listener) : Turn → Bool
  | .batch port => l.gate.active = some port && l.gate.opening ≠ l.assembler.opening
  | .given => l.gate.opening ≠ l.assembler.opening
  | _ => false

/-- The books after a turn. -/
def enter (l : Listener) (b : Books) : Turn → Books
  | .fragment e => if l.admitted then b.file (l.assembler.judge e.fragment).1 e.fragment else b
  | t => if l.forgets t then b.discard else b

/-- The books after some turns in a row. -/
def books (l : Listener) (b : Books) : List Turn → Books
  | [] => b
  | t :: ts => (l.turn t).books (l.enter b t) ts

/-- The books follow the draft and the messages that are handed over. -/
structure Booked (a : Assembler) (b : Books) (emitted : List Emission) : Prop where
  draft : a.draft.bytes = b.held.flatten
  messages : emitted.map (·.message.bytes) = b.groups.map List.flatten
  inv : a.DraftInv

variable {a : Assembler}

theorem booked_fresh (f : Filter) (s : Sink) (g : Gate) : Booked (fresh f s g).assembler {} [] :=
  ⟨rfl, rfl, ⟨fun _ => rfl, nofun⟩⟩

theorem Booked.notice (h : Booked a b emitted) (opening : UInt64) :
    Booked (a.notice opening) (if opening ≠ a.opening then b.discard else b) emitted := by
  by_cases hseen : opening = a.opening
  · rw [Assembler.notice_seen hseen, if_neg (not_not_intro hseen)]
    exact h
  · rw [if_pos hseen]
    refine ⟨?_, h.messages, (h.inv.notice opening).1⟩
    rw [Assembler.notice, if_neg hseen]
    rfl

/-- A fragment that completes a message takes all that is held along into the message's group. -/
theorem Booked.process (h : Booked a b emitted) (e : RawEvent) :
    Booked (a.process e) (b.file (a.judge e.fragment).1 e.fragment)
      (emitted ++ (a.emitted? e).toList.map fun m => ⟨m, a.sink⟩) := by
  have hinv := h.inv.process e
  by_cases hx : e.fragment = []
  · have hnone : a.emitted? e = none := by
      rw [Assembler.emitted?, hx]
      rfl
    have hfile : b.file (a.judge e.fragment).1 e.fragment = b := by
      rw [hx]
      rfl
    rw [hnone, hfile, Option.toList_none, List.map_nil, List.append_nil]
    refine ⟨?_, h.messages, hinv⟩
    rw [Assembler.process_nil hx]
    exact h.draft
  have hdraft := Assembler.process_draft hx (a := a)
  have hgathered := h.inv.gathered e.fragment
  have hkeep := a.judge_deliver e.fragment
  unfold Assembler.emitted?
  cases hd : (a.judge e.fragment).1.deliver
  · rw [hd] at hdraft
    rw [Books.file_held b hd]
    refine ⟨?_, by simpa using h.messages, hinv⟩
    rw [hdraft]
    dsimp only
    rw [if_neg Bool.false_ne_true, hgathered, h.draft, List.flatten_append]
    split
    · rw [List.flatten_singleton]
    · rw [List.flatten_nil]
  · have hacc : (a.judge e.fragment).1.accumulate = true := by
      rw [hd] at hkeep
      exact (Bool.and_eq_true_iff.mp hkeep.symm).1
    rw [hd] at hdraft
    rw [Books.file_complete b hd]
    refine ⟨by rw [hdraft]; rfl, ?_, hinv⟩
    simp [h.messages, hgathered, hacc, h.draft]

theorem Booked.turn (h : Booked l.assembler b emitted) (t : Turn) :
    Booked (l.turn t).assembler (l.enter b t) (emitted ++ l.emits t) := by
  have hsame : Booked l.assembler b (emitted ++ []) := by rwa [List.append_nil]
  have hnotice := hsame.notice l.gate.opening
  cases t with
  | opened port => exact hsame
  | closed => exact hsame
  | receive => exact ⟨hsame.draft, hsame.messages, hsame.inv.empty, hsame.inv.starts⟩
  | given =>
    have hforgot : l.enter b .given =
        if l.gate.opening ≠ l.assembler.opening then b.discard else b := by
      simp [enter, forgets]
    rw [hforgot]
    exact hnotice
  | batch port =>
    by_cases hopen : l.gate.active = some port
    · have hin : (l.turn (.batch port)).assembler = _ := Assembler.accept_open hopen []
      have hforgot : l.enter b (.batch port) =
          if l.gate.opening ≠ l.assembler.opening then b.discard else b := by
        simp [enter, forgets, hopen]
      rw [hin, hforgot]
      exact hnotice
    · have hout : (l.turn (.batch port)).assembler = _ := Assembler.accept_shut hopen []
      rw [hout]
      have hkept : l.enter b (.batch port) = b := if_neg (by simp [forgets, hopen])
      rw [hkept]
      exact ⟨hsame.draft, hsame.messages, hsame.inv.empty, hsame.inv.starts⟩
  | fragment e =>
    by_cases hin : l.admitted = true
    · have hprocesses : l.processes (.fragment e) = [e] := if_pos hin
      rw [turn_admitted hin, emits_processing hprocesses, enter, if_pos hin]
      exact h.process e
    · have hprocesses : l.processes (.fragment e) = [] := if_neg hin
      rw [turn_refused hin, emits_idle hprocesses, enter, if_neg hin]
      exact hsame

theorem Booked.turns (h : Booked l.assembler b emitted) (ts : List Turn) :
    Booked (l.turns ts).assembler (l.books b ts) (emitted ++ l.along emits ts) := by
  induction ts generalizing l b emitted with
  | nil =>
    rw [along, List.append_nil]
    exact h
  | cons t ts ih =>
    rw [along, ← List.append_assoc]
    exact ih (h.turn t)

/-! ## Where every fragment went -/

/-- The fragments that are neither empty nor suppressed. -/
def keeps (l : Listener) (t : Turn) : List RawEvent :=
  (l.processes t).filter fun e => (l.assembler.judge e.fragment).1.accumulate

theorem enter_all (l : Listener) (b : Books) (t : Turn) :
    (l.enter b t).all.Perm (b.all ++ (l.keeps t).map (·.fragment)) := by
  cases t with
  | fragment e =>
    by_cases hin : l.admitted = true
    · have hdeliver : (l.assembler.judge e.fragment).1.deliver = true →
          (l.assembler.judge e.fragment).1.accumulate = true := by
        intro hd
        rw [Assembler.judge_deliver] at hd
        exact (Bool.and_eq_true_iff.mp hd).1
      have hfile := b.file_all hdeliver e.fragment
      rw [enter, if_pos hin, keeps, processes, if_pos hin]
      cases hacc : (l.assembler.judge e.fragment).1.accumulate <;> simpa [hacc] using hfile
    · rw [enter, if_neg hin, keeps, processes, if_neg hin]
      simp
  | _ =>
    change (if l.forgets _ then b.discard else b).all.Perm (b.all ++ [])
    rw [List.append_nil]
    split
    · exact b.discard_all
    · rfl

theorem books_all (l : Listener) (b : Books) (ts : List Turn) :
    (l.books b ts).all.Perm (b.all ++ (l.along keeps ts).map (·.fragment)) := by
  induction ts generalizing l b with
  | nil => simp [books, along]
  | cons t ts ih =>
    rw [books, along, List.map_append, ← List.append_assoc]
    exact (ih _ _).trans ((l.enter_all b t).append_right _)

/-- A fragment that is processed is empty or suppressed or kept. -/
theorem processes_perm (l : Listener) (t : Turn) :
    (l.empties t ++ l.suppresses t ++ l.keeps t).Perm (l.processes t) := by
  rcases l.processes_cases t with hidle | ⟨e, hprocesses, -⟩
  · rw [empties, suppresses, keeps, hidle]
    exact .refl _
  · rw [empties, suppresses, keeps, hprocesses]
    by_cases hx : e.fragment = []
    · have hkept : (l.assembler.judge []).1.accumulate = false := rfl
      simp [hx, hkept]
    · cases hkept : (l.assembler.judge e.fragment).1.accumulate <;> simp [hx, hkept]

theorem along_processes_perm (l : Listener) (ts : List Turn) :
    (l.along empties ts ++ l.along suppresses ts ++ l.along keeps ts).Perm
      (l.along processes ts) := by
  induction ts generalizing l with
  | nil => exact .refl _
  | cons t ts ih =>
    rw [List.perm_iff_count]
    intro e
    have hfirst := (l.processes_perm t).count_eq e
    have hrest := (ih (l.turn t)).count_eq e
    simp only [List.count_append] at hfirst hrest
    simp only [along, List.count_append]
    omega

theorem along_filter {α : Type} {what : Listener → Turn → List α} (p : α → Bool) (l : Listener)
    (ts : List Turn) :
    l.along (fun l t => (what l t).filter p) ts = (l.along what ts).filter p := by
  induction ts generalizing l with
  | nil => rfl
  | cons t ts ih => rw [along, along, List.filter_append, ih]

/-! ## What the sink has no influence on -/

/-- Two listeners that have come equally far, though their sinks and counters may differ. -/
structure Alike (l l' : Listener) : Prop where
  gate : l.gate = l'.gate
  admitted : l.admitted = l'.admitted
  opening : l.assembler.opening = l'.assembler.opening
  agrees : l.assembler.Agrees l'.assembler

theorem notice_agrees {a a' : Assembler} (hopening : a.opening = a'.opening) (h : a.Agrees a')
    (o : UInt64) : (a.notice o).Agrees (a'.notice o) := by
  unfold Assembler.notice
  rw [hopening]
  split
  · exact h
  · exact ⟨h.filter, rfl, rfl, h.stamper⟩

theorem Alike.turn {l' : Listener} (h : Alike l l') (t : Turn) : Alike (l.turn t) (l'.turn t) := by
  obtain ⟨hgate, hadmitted, hopening, hagrees⟩ := h
  have hnotice := notice_agrees hopening hagrees l.gate.opening
  have hseen : (l.assembler.notice l.gate.opening).opening =
      (l'.assembler.notice l.gate.opening).opening := by
    rw [Assembler.notice_opening, Assembler.notice_opening]
  cases t with
  | opened port => exact ⟨congrArg (·.activate port) hgate, hadmitted, hopening, hagrees⟩
  | closed => exact ⟨congrArg (·.deactivate) hgate, hadmitted, hopening, hagrees⟩
  | receive =>
    exact ⟨hgate, hadmitted, hopening,
      ⟨hagrees.filter, hagrees.draft, hagrees.continuing, hagrees.stamper⟩⟩
  | given =>
    refine ⟨hgate, rfl, ?_, ?_⟩
    · rw [Listener.turn, Listener.turn, ← hgate]
      exact hseen
    · rw [Listener.turn, Listener.turn, ← hgate]
      exact hnotice
  | batch port =>
    refine ⟨hgate, by rw [Listener.turn, Listener.turn, hgate], ?_, ?_⟩
    · rw [Listener.turn, Listener.turn, ← hgate, Assembler.accept, Assembler.accept]
      split
      · exact hseen
      · exact hopening
    · rw [Listener.turn, Listener.turn, ← hgate, Assembler.accept, Assembler.accept]
      split
      · exact hnotice
      · exact ⟨hagrees.filter, hagrees.draft, hagrees.continuing, hagrees.stamper⟩
  | fragment e =>
    by_cases hin : l.admitted = true
    · rw [turn_admitted hin, turn_admitted (hadmitted ▸ hin)]
      refine ⟨hgate, hadmitted, ?_, hagrees.process e⟩
      rw [Assembler.process_opening, Assembler.process_opening, hopening]
    · rw [turn_refused hin, turn_refused (hadmitted ▸ hin)]
      exact ⟨hgate, hadmitted, hopening, hagrees⟩

theorem emits_messages (l : Listener) (t : Turn) :
    (l.emits t).map (·.message) =
      (l.processes t).flatMap fun e => (l.assembler.emitted? e).toList := by
  simp [emits, List.map_flatMap, Function.comp_def]

theorem emits_alike {l' : Listener} (h : Alike l l') (t : Turn) :
    (l.emits t).map (·.message) = (l'.emits t).map (·.message) := by
  have hprocesses : l.processes t = l'.processes t := by
    cases t with
    | fragment e => rw [processes, processes, h.admitted]
    | _ => rfl
  rw [emits_messages, emits_messages, hprocesses]
  simp only [h.agrees.emitted]

theorem along_emits_alike {l' : Listener} (h : Alike l l') (ts : List Turn) :
    (l.along emits ts).map (·.message) = (l'.along emits ts).map (·.message) := by
  induction ts generalizing l l' with
  | nil => rfl
  | cons t ts ih =>
    rw [along, along, List.map_append, List.map_append, emits_alike h, ih (h.turn t)]

/-- A callback is called with every message that is handed over. -/
theorem turns_callback (f : Filter) (g : Gate) (ts : List Turn) :
    ((fresh f (.callback []) g).turns ts).assembler.sink =
      .callback (((fresh f (.callback []) g).along emits ts).map (·.message)) := by
  induction ts using List.reverseRecOn with
  | nil => rfl
  | append_singleton ts t ih =>
    rw [turns_concat, along_concat, List.map_append]
    rcases ((fresh f (.callback []) g).turns ts).sink_cases t with ⟨hemits, -, hsink⟩ |
      ⟨hemits, -, hsink⟩ | ⟨m, hemits, -, hsink⟩
    · rw [hsink, hemits, ih, List.map_nil, List.append_nil]
      rfl
    · rw [hsink, hemits, ih, List.map_nil, List.append_nil]
    · rw [hsink, hemits, ih]
      rfl

/-! ## A queue -/

/-- An open queue of some capacity that holds no more than it has room for. -/
def Open (capacity : Nat) (s : Sink) : Prop :=
  ∃ waiting, s = .queue capacity waiting false ∧ waiting.length ≤ capacity

variable {capacity : Nat} {s : Sink}

theorem Open.deliver (h : Open capacity s) (m : Message) : Open capacity (s.deliver m).2 := by
  obtain ⟨waiting, rfl, hlength⟩ := h
  simp only [Sink.deliver]
  split
  · rename_i hroom
    have hless : waiting.length < capacity := by simpa using hroom
    exact ⟨waiting ++ [m], rfl, by rw [List.length_append, List.length_singleton]; omega⟩
  · exact ⟨waiting, rfl, hlength⟩

theorem Open.receive (h : Open capacity s) : Open capacity s.receive.2 := by
  obtain ⟨waiting, rfl, hlength⟩ := h
  cases waiting with
  | nil => exact ⟨[], rfl, hlength⟩
  | cons m rest => exact ⟨rest, rfl, by rw [List.length_cons] at hlength; omega⟩

/-- A queue does not take a message exactly when it holds as many as it can. -/
theorem Open.refuses (h : Open capacity s) (m : Message) :
    (s.deliver m).1 = false ↔ s.contents.length = capacity := by
  obtain ⟨waiting, rfl, hlength⟩ := h
  rw [deliver_fst, Bool.not_eq_false']
  simp only [Sink.isFull, Sink.contents, Bool.false_or, decide_eq_true_eq]
  omega

/-- **Every fragment and every message is accounted for.** A queue of any capacity is fed by batches
that a driver delivers, in any turns with a client that receives and that opens and closes the gate.
What the client has received and what waits is what the queue took, in order; the queue loses a
message exactly when it is full; what is handed over is what a callback in the place of the queue
would be called with. Every message is made of fragments of its own; every fragment that is
processed is empty, or suppressed, or belongs to one message, or to the one that is being built, or
was forgotten at an opening of the gate; and the counters count. -/
theorem accounts (f : Filter) (capacity : Nat) (g : Gate) (ts : List Turn) :
    let start := fresh f (.ofCapacity capacity) g
    let after := (start.turns ts).assembler
    let emitted := start.along emits ts
    let received := start.along receives ts
    let waiting := after.sink.contents
    let processed := start.along processes ts
    let suppressed := start.along suppresses ts
    let books := start.books {} ts
    received ++ waiting = (emitted.filter (·.taken)).map (·.message) ∧
    (∀ x ∈ emitted, x.taken = false ↔ x.sink.contents.length = capacity) ∧
    .callback (emitted.map (·.message)) =
      ((fresh f (.callback []) g).turns ts).assembler.sink ∧
    emitted.map (·.message.bytes) = books.groups.map List.flatten ∧
    after.draft.bytes = books.held.flatten ∧
    ((processed.filter (·.fragment = [])).map (·.fragment) ++ suppressed.map (·.fragment) ++
      books.all).Perm (processed.map (·.fragment)) ∧
    after.counters.delivered = UInt64.ofNat (received.length + waiting.length) ∧
    after.counters.overflows = UInt64.ofNat (emitted.filter (!·.taken)).length ∧
    after.counters.dropped = UInt64.ofNat (processed.filter (·.fragment = [])).length ∧
    after.counters.suppressed = UInt64.ofNat suppressed.length ∧
    UInt64.ofNat processed.length = after.counters.dropped + after.counters.suppressed +
      UInt64.ofNat books.groups.flatten.length + UInt64.ofNat books.held.length +
      UInt64.ofNat books.discarded.length ∧
    after.counters.restarted = UInt64.ofNat (start.along restarts ts).length := by
  intro start after emitted received waiting processed suppressed books
  have hbooked := (booked_fresh f (.ofCapacity capacity) g).turns ts
  have hcontents : received ++ waiting = (emitted.filter (·.taken)).map (·.message) :=
    turns_contents start ts
  have hopen : ∀ x ∈ emitted, Open capacity x.sink :=
    (turns_sink (fun _ m h => h.deliver m) (fun _ h => h.receive)
      (⟨[], rfl, Nat.zero_le capacity⟩ : Open capacity start.assembler.sink) ts).2
  have halike : Alike start (fresh f (.callback []) g) := ⟨rfl, rfl, rfl, ⟨rfl, rfl, rfl, rfl⟩⟩
  have hempties : start.along empties ts = processed.filter (·.fragment = []) :=
    along_filter _ start ts
  have hfragments : ((processed.filter (·.fragment = [])).map (·.fragment) ++
      suppressed.map (·.fragment) ++ books.all).Perm (processed.map (·.fragment)) := by
    have hprocessed := (along_processes_perm start ts).map (·.fragment)
    rw [hempties, List.map_append, List.map_append] at hprocessed
    exact ((books_all start {} ts).append_left _).trans hprocessed
  have hdropped : after.counters.dropped =
      UInt64.ofNat (processed.filter (·.fragment = [])).length := by
    rw [← hempties]
    exact (turns_dropped start ts).trans (UInt64.zero_add _)
  have hsuppressed : after.counters.suppressed = UInt64.ofNat suppressed.length :=
    (turns_suppressed start ts).trans (UInt64.zero_add _)
  refine ⟨hcontents, fun x hx => (hopen x hx).refuses x.message, ?_, hbooked.messages,
    hbooked.draft, hfragments, ?_, ?_, hdropped, hsuppressed, ?_, ?_⟩
  · rw [turns_callback, along_emits_alike halike]
  · have htakes : start.along takes ts = emitted.filter (·.taken) := along_filter _ start ts
    have hlength := congrArg List.length hcontents
    rw [List.length_append, List.length_map, ← htakes] at hlength
    rw [hlength]
    exact (turns_delivered start ts).trans (UInt64.zero_add _)
  · have hloses : start.along loses ts = emitted.filter (!·.taken) := along_filter _ start ts
    rw [← hloses]
    exact (turns_overflows start ts).trans (UInt64.zero_add _)
  · have hlength := hfragments.length_eq
    simp only [Books.all, List.length_append, List.length_map, ← Nat.add_assoc] at hlength
    rw [hdropped, hsuppressed, ← hlength]
    simp only [UInt64.ofNat_add]
  · exact (turns_restarted start ts).trans (UInt64.zero_add _)

/-- One of each: a note taken and one lost, an empty fragment, a clock tick that the filter drops,
and a SysEx begun twice, which the next opening of the gate discards. -/
example :
    ((fresh { ignoreSysex := false } (.ofCapacity 1) {}).turns
      [.opened ⟨3⟩, .batch ⟨3⟩, .fragment ⟨⟨0⟩, [0x90, 60, 100]⟩, .fragment ⟨⟨1⟩, [0x80, 60, 0]⟩,
        .fragment ⟨⟨2⟩, []⟩, .fragment ⟨⟨3⟩, [0xf8]⟩, .fragment ⟨⟨4⟩, [0xf0, 1]⟩,
        .fragment ⟨⟨5⟩, [0xf0, 2]⟩, .opened ⟨3⟩, .batch ⟨3⟩]).assembler.counters =
      { delivered := 1, overflows := 1, dropped := 1, suppressed := 1, restarted := 1 } := by
  decide +kernel

end Listener

end PatchBay
