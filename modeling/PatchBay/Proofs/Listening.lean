import Mathlib.Data.List.Induction
import PatchBay.Proofs.FreshStart

/-!
# Turns at a listener

The thread of the driver and the client take turns at an input. The driver begins with a batch,
which the gate lets in or not, and has its fragments processed one after the other. The client opens
and closes the gate and takes messages out of the queue, at any time, also between two fragments of
a batch. A run is any sequence of such turns. What happens in a run is written down turn by turn:
the fragments that are processed, the messages that are handed to the sink, and those that the
client receives.
-/

namespace PatchBay

/-- A gate, the assembler behind it, and whether the batch at hand was let in. -/
structure Listener where
  gate : Gate
  assembler : Assembler
  admitted : Bool := false

/-- A message on its way to the sink, and the sink as it finds it. -/
structure Emission where
  message : Message
  sink : Sink

/-- Whether the sink takes the message. -/
def Emission.taken (x : Emission) : Bool := (x.sink.deliver x.message).1

namespace Listener

/-- What can happen at a listener. -/
inductive Turn where
  /-- The client opens the gate for a port. -/
  | opened (port : PortId)
  /-- The client closes the gate. -/
  | closed
  /-- The driver begins with a batch for a port. -/
  | batch (port : PortId)
  /-- The assembler is given a batch past the gate, or one that the gate let in earlier. -/
  | given
  /-- The next fragment of the batch at hand arrives. -/
  | fragment (event : RawEvent)
  /-- The client takes the oldest message out of the queue. -/
  | receive

/-- A listener at which nothing has happened. -/
def fresh (f : Filter) (s : Sink) (g : Gate) : Listener where
  gate := g
  assembler := { filter := f, sink := s, opening := g.opening }

/-- A listener after a turn. The gate counts for a batch when the batch is begun. -/
def turn (l : Listener) : Turn → Listener
  | .opened port => { l with gate := l.gate.activate port }
  | .closed => { l with gate := l.gate.deactivate }
  | .batch port =>
    { l with
      assembler := l.assembler.accept l.gate port []
      admitted := l.gate.active = some port }
  | .given => { l with assembler := l.assembler.notice l.gate.opening, admitted := true }
  | .fragment e => if l.admitted then { l with assembler := l.assembler.process e } else l
  | .receive => { l with assembler := l.assembler.receive.2 }

/-- A listener after some turns in a row. -/
def turns (l : Listener) (ts : List Turn) : Listener := ts.foldl turn l

/-- The fragments that are processed in a turn. -/
def processes (l : Listener) : Turn → List RawEvent
  | .fragment e => if l.admitted then [e] else []
  | _ => []

/-- The messages that are handed to the sink in a turn, whether it takes them or not. -/
def emits (l : Listener) (t : Turn) : List Emission :=
  (l.processes t).flatMap fun e =>
    (l.assembler.emitted? e).toList.map fun m => ⟨m, l.assembler.sink⟩

/-- The messages that the client receives in a turn. -/
def receives (l : Listener) : Turn → List Message
  | .receive => l.assembler.receive.1.toList
  | _ => []

/-- What is written down along a run. -/
def along {α : Type} (what : Listener → Turn → List α) (l : Listener) : List Turn → List α
  | [] => []
  | t :: ts => what l t ++ along what (l.turn t) ts

variable {l : Listener} {t : Turn} {e : RawEvent} {α : Type}

theorem turns_concat (l : Listener) (ts : List Turn) (t : Turn) :
    l.turns (ts ++ [t]) = (l.turns ts).turn t := by
  simp [turns]

theorem along_concat (what : Listener → Turn → List α) (l : Listener) (ts : List Turn) (t : Turn) :
    l.along what (ts ++ [t]) = l.along what ts ++ what (l.turns ts) t := by
  induction ts generalizing l with
  | nil => simp [along, turns]
  | cons first ts ih => simp only [List.cons_append, along, ih, List.append_assoc, turns,
      List.foldl_cons]

/-! ## One turn -/

theorem turn_admitted (h : l.admitted = true) (e : RawEvent) :
    l.turn (.fragment e) = { l with assembler := l.assembler.process e } := if_pos h

theorem turn_refused (h : l.admitted ≠ true) (e : RawEvent) : l.turn (.fragment e) = l := if_neg h

/-- In a turn one fragment is processed or none. -/
theorem processes_cases (l : Listener) (t : Turn) :
    l.processes t = [] ∨ ∃ e, l.processes t = [e] ∧
      l.turn t = { l with assembler := l.assembler.process e } := by
  cases t with
  | fragment e =>
    by_cases hin : l.admitted = true
    · exact .inr ⟨e, if_pos hin, turn_admitted hin e⟩
    · exact .inl (if_neg hin)
  | _ => exact .inl rfl

theorem emits_idle (h : l.processes t = []) : l.emits t = [] := by
  rw [emits, h, List.flatMap_nil]

theorem emits_processing (h : l.processes t = [e]) :
    l.emits t = (l.assembler.emitted? e).toList.map fun m => ⟨m, l.assembler.sink⟩ := by
  rw [emits, h, List.flatMap_singleton]

theorem notice_stamper (a : Assembler) (opening : UInt64) :
    (a.notice opening).stamper = a.stamper := by
  unfold Assembler.notice
  split
  · rfl
  · rfl

/-- A turn in which no fragment is processed leaves the stamps alone, and the counters but for that
of batches that were not let in. -/
theorem turn_idle (h : l.processes t = []) :
    (l.turn t).assembler.stamper = l.assembler.stamper ∧
      ∃ n, (l.turn t).assembler.counters = { l.assembler.counters with inactive := n } := by
  have hstamper := notice_stamper l.assembler l.gate.opening
  have hcounters := l.assembler.notice_counters l.gate.opening
  cases t with
  | opened port => exact ⟨rfl, _, rfl⟩
  | closed => exact ⟨rfl, _, rfl⟩
  | receive => exact ⟨rfl, _, rfl⟩
  | given => exact ⟨hstamper, _, hcounters⟩
  | batch port =>
    by_cases hopen : l.gate.active = some port
    · have hin : (l.turn (.batch port)).assembler = _ := Assembler.accept_open hopen []
      rw [hin]
      exact ⟨hstamper, _, hcounters⟩
    · have hout : (l.turn (.batch port)).assembler = _ := Assembler.accept_shut hopen []
      rw [hout]
      exact ⟨rfl, _, rfl⟩
  | fragment e =>
    by_cases hin : l.admitted = true
    · rw [processes, if_pos hin] at h
      cases h
    · rw [turn_refused hin]
      exact ⟨rfl, _, rfl⟩

/-- Undisturbed, a batch is what the assembler makes of it. -/
theorem turns_batch (l : Listener) (port : PortId) (es : List RawEvent) :
    (l.turns (.batch port :: es.map .fragment)).assembler = l.assembler.accept l.gate port es := by
  have hfragments : ∀ l : Listener, (l.turns (es.map .fragment)).assembler =
      if l.admitted then l.assembler.processAll es else l.assembler := by
    intro l
    induction es generalizing l with
    | nil => simp [turns]
    | cons e es ih =>
      have hfirst := ih (l.turn (.fragment e))
      rw [List.map_cons, turns, List.foldl_cons, ← turns, hfirst]
      by_cases hin : l.admitted = true
      · simp [turn_admitted hin, hin]
      · simp [turn_refused hin, hin]
  rw [turns, List.foldl_cons, ← turns, hfragments]
  by_cases hopen : l.gate.active = some port
  · simp [turn, hopen, Assembler.accept]
  · simp [turn, hopen, Assembler.accept]

/-! ## The sink -/

/-- A sink takes a message unless it is full. -/
theorem deliver_fst (s : Sink) (m : Message) : (s.deliver m).1 = !s.isFull := by
  cases s with
  | callback handed => rfl
  | queue capacity waiting closed =>
    simp only [Sink.deliver, Sink.isFull]
    split
    · rename_i hroom
      simpa using hroom
    · rename_i hfull
      simpa using hfull

theorem deliver_contents (s : Sink) (m : Message) :
    (s.deliver m).2.contents = s.contents ++ if (s.deliver m).1 then [m] else [] := by
  rw [deliver_fst]
  cases hs : s.isFull
  · exact Sink.contents_deliver hs m
  · rw [Sink.deliver_full hs]
    exact (List.append_nil _).symm

/-- What a turn does to the sink: a message is taken out at the front, or nothing is done, or a
message is handed over. -/
theorem sink_cases (l : Listener) (t : Turn) :
    (l.emits t = [] ∧ l.receives t = l.assembler.sink.receive.1.toList ∧
        (l.turn t).assembler.sink = l.assembler.sink.receive.2) ∨
      (l.emits t = [] ∧ l.receives t = [] ∧ (l.turn t).assembler.sink = l.assembler.sink) ∨
      ∃ m, l.emits t = [⟨m, l.assembler.sink⟩] ∧ l.receives t = [] ∧
        (l.turn t).assembler.sink = (l.assembler.sink.deliver m).2 := by
  have hnotice := l.assembler.notice_sink l.gate.opening
  cases t with
  | opened port => exact .inr (.inl ⟨rfl, rfl, rfl⟩)
  | closed => exact .inr (.inl ⟨rfl, rfl, rfl⟩)
  | receive => exact .inl ⟨rfl, rfl, rfl⟩
  | given => exact .inr (.inl ⟨rfl, rfl, hnotice⟩)
  | batch port =>
    refine .inr (.inl ⟨rfl, rfl, ?_⟩)
    change (l.assembler.accept l.gate port []).sink = _
    unfold Assembler.accept
    split
    · exact hnotice
    · rfl
  | fragment e =>
    by_cases hin : l.admitted = true
    · have hprocesses : l.processes (.fragment e) = [e] := if_pos hin
      have hsink := l.assembler.process_sink e
      rw [emits_processing hprocesses, turn_admitted hin]
      cases hm : l.assembler.emitted? e with
      | none =>
        rw [hm] at hsink
        exact .inr (.inl ⟨rfl, rfl, hsink⟩)
      | some m =>
        rw [hm] at hsink
        exact .inr (.inr ⟨m, rfl, rfl, hsink⟩)
    · have hprocesses : l.processes (.fragment e) = [] := if_neg hin
      rw [emits_idle hprocesses, turn_refused hin]
      exact .inr (.inl ⟨rfl, rfl, rfl⟩)

/-- In a turn the client receives from the front what the sink took at the back. -/
theorem turn_contents (l : Listener) (t : Turn) :
    l.receives t ++ (l.turn t).assembler.sink.contents =
      l.assembler.sink.contents ++ ((l.emits t).filter (·.taken)).map (·.message) := by
  rcases l.sink_cases t with ⟨hemits, hreceives, hsink⟩ | ⟨hemits, hreceives, hsink⟩ |
    ⟨m, hemits, hreceives, hsink⟩
  · rw [hemits, hreceives, hsink, Sink.contents_receive]
    simp
  · rw [hemits, hreceives, hsink]
    simp
  · rw [hemits, hreceives, hsink, deliver_contents]
    cases htaken : (l.assembler.sink.deliver m).1 <;> simp [Emission.taken, htaken]

/-- What the client has received and what the sink holds is what the sink held and took, in
order. -/
theorem turns_contents (l : Listener) (ts : List Turn) :
    l.along receives ts ++ (l.turns ts).assembler.sink.contents =
      l.assembler.sink.contents ++ ((l.along emits ts).filter (·.taken)).map (·.message) := by
  induction ts using List.reverseRecOn with
  | nil => simp [along, turns]
  | append_singleton ts t ih =>
    rw [turns_concat, along_concat, along_concat, List.append_assoc, turn_contents,
      ← List.append_assoc, ih, List.filter_append, List.map_append, List.append_assoc]

/-- What messages leave true of a sink, on their way in and out, is true of it all along a run. -/
theorem turns_sink {P : Sink → Prop} (hdeliver : ∀ s m, P s → P (s.deliver m).2)
    (hreceive : ∀ s, P s → P s.receive.2) (h : P l.assembler.sink) (ts : List Turn) :
    P (l.turns ts).assembler.sink ∧ ∀ x ∈ l.along emits ts, P x.sink := by
  induction ts using List.reverseRecOn with
  | nil => exact ⟨h, nofun⟩
  | append_singleton ts t ih =>
    obtain ⟨hsink, hemitted⟩ := ih
    rw [turns_concat, along_concat]
    rcases (l.turns ts).sink_cases t with ⟨hemits, -, hnext⟩ | ⟨hemits, -, hnext⟩ |
      ⟨m, hemits, -, hnext⟩
    · rw [hemits, hnext, List.append_nil]
      exact ⟨hreceive _ hsink, hemitted⟩
    · rw [hemits, hnext, List.append_nil]
      exact ⟨hsink, hemitted⟩
    · rw [hemits, hnext]
      refine ⟨hdeliver _ m hsink, fun x hx => ?_⟩
      rcases List.mem_append.mp hx with hold | hnew
      · exact hemitted x hold
      · rw [List.mem_singleton.mp hnew]
        exact hsink

end Listener

end PatchBay
