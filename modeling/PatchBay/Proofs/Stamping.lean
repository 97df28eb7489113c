import PatchBay.Proofs.Listening
import PatchBay.Proofs.Seconds

/-!
# Stamps

A message is stamped with the time that passed since the fragment before the one that completes it,
whatever became of that fragment. What carries this through a run is that the stamping state knows
the reading at the latest fragment that was processed, and whether a message was handed over. A
client that takes the messages out of a queue sees the first one stamped zero, because a queue that
has room for a message takes the first one.
-/

namespace PatchBay

namespace Sink

/-- A callback, or a queue that the client still has and that can hold a message. -/
def Roomy : Sink → Prop
  | .callback _ => True
  | .queue capacity _ closed => 0 < capacity ∧ closed = false

theorem Roomy.deliver {s : Sink} (h : Roomy s) (m : Message) : Roomy (s.deliver m).2 := by
  cases s with
  | callback handed => trivial
  | queue capacity waiting closed =>
    simp only [Sink.deliver]
    split
    · exact h
    · exact h

theorem Roomy.receive {s : Sink} (h : Roomy s) : Roomy s.receive.2 := by
  cases s with
  | callback handed => trivial
  | queue capacity waiting closed => cases waiting <;> exact h

theorem Roomy.not_full {s : Sink} (h : Roomy s) (hempty : s.contents = []) :
    s.isFull = false := by
  cases s with
  | callback handed => rfl
  | queue capacity waiting closed =>
    obtain ⟨hcapacity, rfl⟩ := h
    have hwaiting : waiting = [] := hempty
    simp only [isFull, hwaiting, Bool.false_or, List.length_nil, decide_eq_false_iff_not]
    omega

end Sink

namespace Listener

variable {l : Listener} {processed : List RawEvent} {emitted : List Emission}

/-! ## The stamping state -/

/-- The stamping state tells when the latest of some fragments was processed, and whether any
message was handed over. -/
structure Clocked (s : Stamper) (processed : List RawEvent) (emitted : List Emission) : Prop where
  baseline : ∀ last ∈ processed.getLast?, s.baseline = last.time
  pristine : s.pristine = emitted.isEmpty
  some_processed : emitted ≠ [] → processed ≠ []

theorem Clocked.turn (h : Clocked l.assembler.stamper processed emitted) (t : Turn) :
    Clocked (l.turn t).assembler.stamper (processed ++ l.processes t) (emitted ++ l.emits t) := by
  rcases l.processes_cases t with hidle | ⟨e, hprocesses, hturn⟩
  · rw [(turn_idle hidle).1, hidle, emits_idle hidle, List.append_nil, List.append_nil]
    exact h
  rw [hturn, hprocesses, emits_processing hprocesses, Assembler.process_stamper]
  refine ⟨fun last hlast => ?_, ?_, fun _ => by simp⟩
  · rw [List.getLast?_concat, Option.mem_some_iff] at hlast
    rw [← hlast]
    split
    · rfl
    · rfl
  · unfold Assembler.emitted?
    split
    · simp
    · simpa using h.pristine

theorem clocked_turns (f : Filter) (s : Sink) (g : Gate) (ts : List Turn) :
    Clocked ((fresh f s g).turns ts).assembler.stamper ((fresh f s g).along processes ts)
      ((fresh f s g).along emits ts) := by
  induction ts using List.reverseRecOn with
  | nil => exact ⟨nofun, rfl, fun h => absurd rfl h⟩
  | append_singleton ts t ih =>
    rw [turns_concat, along_concat, along_concat]
    exact ih.turn t

/-- A message that is handed over finds the sink as it is, and is stamped when the fragment that
completes it is processed. -/
theorem of_mem_emits {t : Turn} {x : Emission} (hx : x ∈ l.emits t) :
    x.sink = l.assembler.sink ∧
      ∃ e, l.processes t = [e] ∧ x.message.timestamp = (l.assembler.stamper.stamp e.time).1 := by
  rcases l.processes_cases t with hidle | ⟨e, hprocesses, -⟩
  · rw [emits_idle hidle] at hx
    cases hx
  rw [emits_processing hprocesses] at hx
  obtain ⟨m, hm, rfl⟩ := List.mem_map.mp hx
  refine ⟨rfl, e, hprocesses, ?_⟩
  rw [Option.mem_toList, Assembler.emitted?] at hm
  split at hm
  · cases hm
    rfl
  · cases hm

theorem zero_le_stamp (s : Stamper) (now : Time) : 0.0 ≤ (s.stamp now).1 := by
  unfold Stamper.stamp
  dsimp only
  split
  · exact Time.zero_le_zero
  · exact Time.zero_le_delta _ _

theorem along_emits_zero_le (l : Listener) (ts : List Turn) :
    ∀ x ∈ l.along emits ts, 0.0 ≤ x.message.timestamp := by
  induction ts generalizing l with
  | nil => nofun
  | cons t ts ih =>
    intro x hx
    rcases List.mem_append.mp hx with hnow | hlater
    · obtain ⟨-, e, -, htime⟩ := of_mem_emits hnow
      rw [htime]
      exact zero_le_stamp _ _
    · exact ih _ x hlater

/-! ## The first message -/

variable {f : Filter} {s : Sink} {g : Gate}

/-- A sink with room takes the first message, and that is stamped zero. Until then nothing waits in
the sink, whatever the client received. -/
theorem first_taken (hroom : s.Roomy) (hempty : s.contents = []) (ts : List Turn) :
    ∀ x ∈ ((fresh f s g).along emits ts).head?, x.taken = true ∧ x.message.timestamp = 0.0 := by
  induction ts using List.reverseRecOn with
  | nil => nofun
  | append_singleton ts t ih =>
    intro x hx
    rw [along_concat] at hx
    cases hemitted : (fresh f s g).along emits ts with
    | cons first rest =>
      rw [hemitted] at hx ih
      exact ih x hx
    | nil =>
      rw [hemitted, List.nil_append] at hx
      obtain ⟨hsink, e, -, htime⟩ := of_mem_emits (List.mem_of_mem_head? hx)
      have hnothing : ((fresh f s g).turns ts).assembler.sink.contents = [] := by
        have hall := turns_contents (fresh f s g) ts
        have hstart : (fresh f s g).assembler.sink.contents = [] := hempty
        rw [hemitted, hstart] at hall
        exact (List.append_eq_nil_iff.mp hall).2
      have hroomy : ((fresh f s g).turns ts).assembler.sink.Roomy :=
        (turns_sink (P := Sink.Roomy) (fun _ m h => h.deliver m) (fun _ h => h.receive) hroom ts).1
      have hpristine : ((fresh f s g).turns ts).assembler.stamper.pristine = true := by
        rw [(clocked_turns f s g ts).pristine, hemitted]
        rfl
      refine ⟨?_, ?_⟩
      · rw [Emission.taken, hsink, deliver_fst, hroomy.not_full hnothing]
        rfl
      · rw [htime]
        exact if_pos hpristine

/-- Along every run from a fresh listener, with any filter, sink and gate and with any readings of
the clock: a message is stamped zero if none was handed over before it, and otherwise with the
nanoseconds from the fragment that was processed last to the one that completes it, none if the
clock went backwards, times `1e-9`; no stamp is below zero; and the first message that a callback or
a queue takes is stamped zero. -/
theorem stamps_tell_time (f : Filter) (s : Sink) (g : Gate) (ts : List Turn) :
    let start := fresh f s g
    let emitted := start.along emits ts
    let accepted := start.along receives ts ++ (start.turns ts).assembler.sink.contents
    (∀ e, ∀ x ∈ (start.turns ts).emits (.fragment e),
      (emitted = [] → x.message.timestamp = 0.0) ∧
      (emitted ≠ [] → ∃ last, (start.along processes ts).getLast? = some last ∧
        x.message.timestamp = (Time.elapsed last.time e.time).toFloat * 1e-9 ∧
        (Time.elapsed last.time e.time).toNat = e.time.nanos.toNat - last.time.nanos.toNat)) ∧
    (∀ x ∈ emitted, 0.0 ≤ x.message.timestamp) ∧
    (s = .callback [] ∨ (∃ capacity, 0 < capacity ∧ s = .ofCapacity capacity) →
      accepted = (emitted.filter (·.taken)).map (·.message) ∧
      ∀ m ∈ accepted.head?, m.timestamp = 0.0) := by
  intro start emitted accepted
  have hclock := clocked_turns f s g ts
  refine ⟨fun e x hx => ?_, along_emits_zero_le start ts, fun hs => ?_⟩
  · obtain ⟨-, e', hprocesses, htime⟩ := of_mem_emits hx
    have he : e' = e := by
      simp only [processes] at hprocesses
      split at hprocesses
      · exact (List.singleton_inj.mp hprocesses).symm
      · cases hprocesses
    rw [he] at htime
    refine ⟨fun hnone => ?_, fun hsome => ?_⟩
    · rw [htime]
      exact if_pos (by rw [hclock.pristine, List.isEmpty_iff]; exact hnone)
    · have hlast := List.getLast?_eq_some_getLast (hclock.some_processed hsome)
      refine ⟨_, hlast, ?_, Time.elapsed_toNat _ _⟩
      rw [htime, ← hclock.baseline _ hlast]
      exact if_neg (by rw [hclock.pristine, List.isEmpty_iff]; exact hsome)
  · have hroom : s.Roomy ∧ s.contents = [] := by
      rcases hs with rfl | ⟨capacity, hcapacity, rfl⟩
      · exact ⟨trivial, rfl⟩
      · exact ⟨⟨hcapacity, rfl⟩, rfl⟩
    have haccepted : accepted = (emitted.filter (·.taken)).map (·.message) := by
      have hstart : start.assembler.sink.contents = [] := hroom.2
      have hall := turns_contents start ts
      rwa [hstart, List.nil_append] at hall
    refine ⟨haccepted, fun m hm => ?_⟩
    rw [haccepted] at hm
    have hfirst := first_taken (f := f) (g := g) hroom.1 hroom.2 ts
    change ∀ x ∈ emitted.head?, _ at hfirst
    cases hemitted : emitted with
    | nil =>
      rw [hemitted] at hm
      cases hm
    | cons x rest =>
      rw [hemitted] at hm hfirst
      obtain ⟨htaken, hzero⟩ := hfirst x rfl
      rw [List.filter_cons_of_pos htaken] at hm
      cases hm
      exact hzero

/-- Three notes for a queue that holds one message, the last of them before the others by the clock.
The second is lost and is stamped with 400 nanoseconds; the third is stamped with none. The first is
stamped zero for the client that receives between them. -/
theorem stamps_tell_time_overflow :
    let start := fresh {} (.ofCapacity 1) {}
    let first : List Turn := [.opened ⟨3⟩, .batch ⟨3⟩, .fragment ⟨⟨500⟩, [0x90, 60, 100]⟩]
    let lost : RawEvent := ⟨⟨900⟩, [0x80, 60, 0]⟩
    let between : List Turn := [.fragment ⟨⟨950⟩, [0xf8]⟩, .receive]
    let early : RawEvent := ⟨⟨700⟩, [0x90, 62, 100]⟩
    let before := first ++ .fragment lost :: between
    let ts := before ++ [.fragment early]
    let accepted := start.along receives ts ++ (start.turns ts).assembler.sink.contents
    (start.along emits ts).length = 3 ∧ accepted.length = 2 ∧
      (∀ m ∈ accepted.head?, m.timestamp = 0.0) ∧
      ((start.turns first).emits (.fragment lost)).map (·.message.timestamp) =
        [(400 : UInt64).toFloat * 1e-9] ∧
      ((start.turns before).emits (.fragment early)).map (·.message.timestamp) =
        [(0 : UInt64).toFloat * 1e-9] := by
  intro start first lost between early before ts accepted
  have htold := stamps_tell_time {} (.ofCapacity 1) {}
  have hstamp (past : List Turn) (e last : RawEvent) (passed : UInt64)
      (hone : ((start.turns past).emits (.fragment e)).length = 1)
      (hsome : 0 < (start.along emits past).length)
      (hlast : (start.along processes past).getLast? = some last)
      (hpassed : Time.elapsed last.time e.time = passed) :
      ((start.turns past).emits (.fragment e)).map (·.message.timestamp) =
        [passed.toFloat * 1e-9] := by
    obtain ⟨x, hx⟩ := List.length_eq_one_iff.mp hone
    have hmem : x ∈ (start.turns past).emits (.fragment e) := by
      rw [hx]
      exact List.mem_singleton_self x
    obtain ⟨found, hfound, htime, -⟩ :=
      ((htold past).1 e x hmem).2 (List.ne_nil_of_length_pos hsome)
    cases hlast.symm.trans hfound
    rw [hx, List.map_singleton, htime, hpassed]
  exact ⟨by decide +kernel, by decide +kernel, ((htold ts).2.2 (.inr ⟨1, by decide, rfl⟩)).2,
    hstamp first lost ⟨⟨500⟩, [0x90, 60, 100]⟩ 400 (by decide +kernel) (by decide +kernel)
      (by decide +kernel) (by decide),
    hstamp before early ⟨⟨950⟩, [0xf8]⟩ 0 (by decide +kernel) (by decide +kernel)
      (by decide +kernel) (by decide)⟩

end Listener

end PatchBay
