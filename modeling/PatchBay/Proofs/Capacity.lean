import PatchBay.Proofs.Segmentation

/-!
# The capacity does not matter

An encoder cuts a SysEx into events that fit its capacity. Where it cuts is all that depends on the
capacity: whatever the mode it starts from, a stream is used up as far, fails with the same error,
is written as the same bytes and leaves the same mode.

What carries the proof is that an open SysEx can be cut anywhere: to take a run of its bytes in one
piece and then read on comes to the same as to read on at once. A run may end before the closing
byte, before a real-time byte, before a second start or before a byte that breaks the SysEx off, and
after each of these a different branch of `next` goes on.
-/

namespace PatchBay

namespace Encoder

/-! ## What encoding a stream comes to -/

/-- The event of a call, if there is one. -/
def Round.event? (round : Round) : Option Bytes :=
  match round.result with
  | .ok _ => some round.after.event
  | .error _ => none

def Round.error? (round : Round) : Option EncodeError :=
  match round.result with
  | .ok _ => none
  | .error err => some err

def events (rounds : List Round) : List Bytes := rounds.filterMap Round.event?

/-- Why a sequence of calls came to its end, if not because all bytes were used up. -/
def failure? (rounds : List Round) : Option EncodeError := rounds.findSome? Round.error?

/-- Whether an event is a piece of a SysEx: of all others, the first byte is a status byte, and
neither that which opens a SysEx nor that which ends one. -/
def isPiece : Bytes → Bool
  | [] => false
  | first :: _ => first == Status.sysexStart || first == Status.sysexEnd || !isStatus first

/-- An event, cut into single bytes if it is a piece of a SysEx. -/
def shards (event : Bytes) : List Bytes := if isPiece event then event.map ([·]) else [event]

/-- What encoding a stream comes to, without where a SysEx was cut. -/
structure Yield where
  /-- How many bytes were used up. -/
  used : Nat
  failure : Option EncodeError
  /-- The events, those of a SysEx byte by byte. -/
  shards : List Bytes
  /-- The mode at the end. -/
  mode : Mode

/-- What it comes to with some bytes in front. -/
def Yield.behind (y : Yield) (used : Nat) (front : List Bytes) : Yield :=
  { y with used := used + y.used, shards := front ++ y.shards }

def yield (e : Encoder) (bytes : Bytes) : Yield :=
  { used := consumed (e.encodeAll bytes).1
    failure := failure? (e.encodeAll bytes).1
    shards := (events (e.encodeAll bytes).1).flatMap Encoder.shards
    mode := (e.encodeAll bytes).2.mode }

@[simp] theorem Yield.behind_behind (y : Yield) (m n : Nat) (xs ys : List Bytes) :
    (y.behind n ys).behind m xs = y.behind (m + n) (xs ++ ys) := by
  simp [behind, Nat.add_assoc]

theorem flatten_map_singleton (bytes : Bytes) : (bytes.map ([·])).flatten = bytes := by
  induction bytes with
  | nil => rfl
  | cons b bytes ih => rw [List.map_cons, List.flatten_cons, ih, List.singleton_append]

theorem shards_singleton (b : UInt8) : shards [b] = [[b]] := by
  unfold shards
  split <;> rfl

/-- Cutting pieces up changes nothing about the bytes. -/
theorem flatten_flatMap_shards (events : List Bytes) :
    (events.flatMap shards).flatten = events.flatten := by
  induction events with
  | nil => rfl
  | cons event events ih =>
    have hevent : (shards event).flatten = event := by
      unfold shards
      split
      · exact flatten_map_singleton event
      · simp
    rw [List.flatMap_cons, List.flatten_append, hevent, ih, List.flatten_cons]

variable {e e' after : Encoder} {bytes rest : Bytes} {first b : UInt8} {n room : Nat}
  {err : EncodeError} {running : Option UInt8} {mode : Mode}

/-! ## One call -/

@[simp] theorem yield_nil (e : Encoder) : e.yield [] = ⟨0, none, [], e.mode⟩ := by
  simp [yield, events, failure?]

theorem yield_ok (h : e.encode bytes = (.ok n, after)) :
    e.yield bytes = (after.yield (bytes.drop n)).behind n (shards after.event) := by
  have hsome : ∀ rounds : List Round, failure? (⟨.ok n, after⟩ :: rounds) = failure? rounds :=
    fun _ => rfl
  simp [yield, encodeAll_ok h, Yield.behind, events, hsome, Round.consumed, Round.event?]

theorem yield_error (hne : bytes ≠ []) (h : e.encode bytes = (.error err, after)) :
    e.yield bytes = ⟨0, some err, [], after.mode⟩ := by
  simp [yield, encodeAll_error hne h, events, failure?, Round.consumed, Round.event?, Round.error?]

/-- Where the next event is the same, so is all that follows it. The last event is not looked at. -/
theorem yield_congr (hcap : e.capacity = e'.capacity) (hmode : bytes = [] → e.mode = e'.mode)
    (h : next e.capacity e.mode bytes = next e'.capacity e'.mode bytes) :
    e.yield bytes = e'.yield bytes := by
  by_cases hne : bytes = []
  · rw [hne, yield_nil, yield_nil, hmode hne]
  have henc : e.encode bytes = e'.encode bytes := by
    unfold encode
    rw [h]
    split <;> simp [hcap]
  cases hout : e.encode bytes with
  | mk result after =>
    have hout' := henc.symm.trans hout
    cases result with
    | ok n => rw [yield_ok hout, yield_ok hout']
    | error err => rw [yield_error hne hout, yield_error hne hout']

theorem yield_next {event : Event}
    (h : next e.capacity e.mode bytes = (.ok event, mode)) :
    e.yield bytes = (({ e with mode } : Encoder).yield (bytes.drop event.consumed)).behind
      event.consumed (shards event.bytes) := by
  have henc : e.encode bytes = (.ok event.consumed, { e with event := event.bytes, mode }) := by
    rw [encode, h]
  rw [yield_ok henc]
  congr 1
  exact yield_congr rfl (fun _ => rfl) rfl

/-- Only a piece of a SysEx depends on the capacity. -/
theorem next_capacity {capacity capacity' : Nat} (h : ¬ Opens mode.inSysex first) :
    next capacity mode (first :: rest) = next capacity' mode (first :: rest) := by
  have hopen : ¬ (first = Status.sysexStart ∨ (mode.inSysex = true ∧ ¬ isStatus first = true)) := by
    simpa [Opens] using h
  rw [next, next, if_neg hopen, if_neg hopen]

/-- To a byte that breaks a SysEx off it makes no difference whether one is open. -/
theorem next_breaking {capacity : Nat} (hs : isStatus b = true) (hr : isRealtime b = false)
    (hend : b ≠ Status.sysexEnd) :
    next capacity ⟨running, true⟩ (b :: rest) = next capacity ⟨running, false⟩ (b :: rest) := by
  have hdata : ¬ b < Status.noteOff := by
    simp only [isStatus, Status.noteOff] at *
    grind
  simp [next, hs, hr, hend, hdata]

/-! ## Where a SysEx is cut -/

/-- An open SysEx may be cut in front of `bytes` or behind any run of them. -/
def Splits (bytes : Bytes) : Prop :=
  ∀ (e : Encoder) (running : Option UInt8) (room : Nat),
    ({ e with mode := ⟨running, true⟩ } : Encoder).yield bytes =
      (({ e with mode := ⟨running, (sysexRun room bytes).2⟩ } : Encoder).yield
        (bytes.drop (sysexRun room bytes).1)).behind (sysexRun room bytes).1
          ((bytes.take (sysexRun room bytes).1).map ([·]))

/-- A piece may be cut behind its first byte. -/
theorem Splits.yield_piece (h : Splits rest) (hopen : Opens e.mode.inSysex first) :
    e.yield (first :: rest) =
      (({ e with
          mode := ⟨if first = Status.sysexStart then none else e.mode.running, true⟩ } :
            Encoder).yield rest).behind 1 [[first]] := by
  have hpiece : ∀ tail, isPiece (first :: tail) = true := by
    intro tail
    rcases hopen with rfl | ⟨-, hdata⟩
    · rfl
    · simp [isPiece, hdata]
  rw [yield_next (next_piece hopen), h e _ (e.capacity - 1), List.drop_succ_cons]
  simp [shards, hpiece, Nat.add_comm]

theorem splits (bytes : Bytes) : Splits bytes := by
  induction bytes with
  | nil =>
    intro e running room
    cases room <;> simp [sysexRun, Yield.behind]
  | cons b rest ih =>
    intro e running room
    cases room with
    | zero => simp [sysexRun, Yield.behind]
    | succ room =>
      by_cases hend : b = Status.sysexEnd
      · subst hend
        rw [yield_next (next_end rfl)]
        rfl
      by_cases hbody : isBody b = true
      · -- a real-time byte is an event of its own, a data byte starts a piece
        have hfirst : ({ e with mode := ⟨running, true⟩ } : Encoder).yield (b :: rest) =
            (({ e with mode := ⟨running, true⟩ } : Encoder).yield rest).behind 1 [[b]] := by
          by_cases hr : isRealtime b = true
          · rw [yield_next (next_realtime hr), shards_singleton]
            rfl
          · have hdata : isStatus b = false := by
              simpa [isBody, hr] using hbody
            have hstart : b ≠ Status.sysexStart := by
              rintro rfl
              cases hdata
            rw [ih.yield_piece (.inr ⟨rfl, hdata⟩), if_neg hstart]
        rw [hfirst, ih e running room, sysexRun_cons room hbody, Yield.behind_behind,
          List.drop_succ_cons, List.take_succ_cons, Nat.add_comm]
        rfl
      · obtain ⟨hs, hr⟩ : isStatus b = true ∧ isRealtime b = false := by
          simpa [isBody] using hbody
        have hstop : sysexRun (room + 1) (b :: rest) = (0, false) := by
          simp [sysexRun, hend, hs, hr]
        have hnext : ({ e with mode := ⟨running, true⟩ } : Encoder).yield (b :: rest) =
            ({ e with mode := ⟨running, false⟩ } : Encoder).yield (b :: rest) :=
          yield_congr rfl (absurd · (List.cons_ne_nil b rest)) (next_breaking hs hr hend)
        rw [hnext, hstop]
        simp [Yield.behind]

/-! ## Two capacities -/

/-- Encoders in the same mode get the same from a stream, whatever their capacities. -/
theorem yield_eq (h : e.mode = e'.mode) (bytes : Bytes) : e.yield bytes = e'.yield bytes := by
  induction hn : bytes.length using Nat.strongRecOn generalizing e e' bytes with
  | ind n ih =>
    subst hn
    cases bytes with
    | nil => rw [yield_nil, yield_nil, h]
    | cons first rest =>
      by_cases hopen : Opens e.mode.inSysex first
      · have hopen' : Opens e'.mode.inSysex first := by rwa [← h]
        rw [(splits rest).yield_piece hopen, (splits rest).yield_piece hopen', h]
        congr 1
        exact ih rest.length (Nat.lt_succ_self _) (by rfl) rest rfl
      · have hsame : next e.capacity e.mode (first :: rest) =
            next e'.capacity e.mode (first :: rest) := next_capacity hopen
        cases hnext : next e.capacity e.mode (first :: rest) with
        | mk result mode =>
          have hnext' : next e'.capacity e'.mode (first :: rest) = (result, mode) := by
            rw [← h, ← hsame, hnext]
          cases result with
          | error err =>
            have henc : e.encode (first :: rest) = (.error err, { e with event := [], mode }) := by
              rw [encode, hnext]
            have henc' : e'.encode (first :: rest) =
                (.error err, { e' with event := [], mode }) := by
              rw [encode, hnext']
            rw [yield_error (List.cons_ne_nil _ _) henc, yield_error (List.cons_ne_nil _ _) henc']
          | ok event =>
            obtain ⟨hpos, hle⟩ := next_consumed hnext
            have hshort :
                ((first :: rest).drop event.consumed).length < (first :: rest).length := by
              rw [List.length_drop]
              omega
            rw [yield_next hnext, yield_next hnext']
            congr 1
            exact ih _ hshort (by rfl) _ rfl

/-- A stream that is not used up ends in a failure. -/
theorem used_of_failure (h : (e.yield bytes).failure = none) :
    (e.yield bytes).used = bytes.length := by
  induction hn : bytes.length using Nat.strongRecOn generalizing e bytes with
  | ind n ih =>
    subst hn
    by_cases hne : bytes = []
    · rw [hne, yield_nil]
      rfl
    cases henc : e.encode bytes with
    | mk result after =>
      cases result with
      | error err =>
        rw [yield_error hne henc] at h
        cases h
      | ok k =>
        obtain ⟨hpos, hle⟩ := encode_consumed henc
        rw [yield_ok henc] at h ⊢
        have hlen : (bytes.drop k).length = bytes.length - k := List.length_drop
        have hrest := ih _ (by omega) h rfl
        simp only [Yield.behind]
        omega

/-- **The outcome does not depend on the capacity.** Two encoders in the same mode, of any two
capacities, use up as many bytes of a stream, all of them if neither fails, or fail there with the
same error; their events say the same bytes, and they end in the same mode. If the pieces of SysEx
messages are cut into single bytes, the events are the same one by one. Nothing is asked of the
mode, so it may be one that earlier calls have left. -/
theorem encodeAll_capacity (e e' : Encoder) (h : e.mode = e'.mode) (bytes : Bytes) :
    let rounds := (e.encodeAll bytes).1
    let rounds' := (e'.encodeAll bytes).1
    consumed rounds = consumed rounds' ∧ failure? rounds = failure? rounds' ∧
      (failure? rounds = none → consumed rounds = bytes.length) ∧
      (events rounds).flatten = (events rounds').flatten ∧
      (e.encodeAll bytes).2.mode = (e'.encodeAll bytes).2.mode ∧
      (events rounds).flatMap shards = (events rounds').flatMap shards := by
  intro rounds rounds'
  have hyield := yield_eq h bytes
  have hshards : (events rounds).flatMap shards = (events rounds').flatMap shards :=
    congrArg Yield.shards hyield
  refine ⟨congrArg Yield.used hyield, congrArg Yield.failure hyield, used_of_failure, ?_,
    congrArg Yield.mode hyield, hshards⟩
  rw [← flatten_flatMap_shards, hshards, flatten_flatMap_shards]

/-- With room for one byte it comes to what it comes to with room for five: a SysEx that is open
already and ends, a note and one with running status around a clock tick, a SysEx that another start
and then a program change break off, and a byte without a meaning. -/
theorem encodeAll_capacity_one_five :
    let e := ((ofCapacity 1).encode [0xF0]).2
    let e' := ((ofCapacity 5).encode [0xF0]).2
    let bytes : Bytes := [0x01, 0xF8, 0x02, 0xF7, 0x90, 0x3C, 0x40, 0xF8, 0x3E, 0x40,
      0xF0, 0x11, 0x12, 0xF0, 0x13, 0xFE, 0x14, 0x15, 0x16, 0x17, 0xC0, 0x05, 0xF4, 0x00]
    e.mode = e'.mode ∧
      consumed (e.encodeAll bytes).1 = 22 ∧
      failure? (e.encodeAll bytes).1 = some (.undefinedStatus 0xF4) ∧
      (events (e.encodeAll bytes).1).flatten =
        [0x01, 0xF8, 0x02, 0xF7, 0x90, 0x3C, 0x40, 0xF8, 0x90, 0x3E, 0x40,
          0xF0, 0x11, 0x12, 0xF0, 0x13, 0xFE, 0x14, 0x15, 0x16, 0x17, 0xC0, 0x05] ∧
      (e.encodeAll bytes).2.mode = ⟨some 0xC0, false⟩ ∧
      (events (e.encodeAll bytes).1).length = 18 ∧ (events (e'.encodeAll bytes).1).length = 8 := by
  intro e e' bytes
  have hmode : e.mode = e'.mode := by decide
  obtain ⟨hused, hfailure, -, hflat, hafter, -⟩ := encodeAll_capacity e e' hmode bytes
  refine ⟨hmode, hused.trans ?_, hfailure.trans ?_, hflat.trans ?_, hafter.trans ?_, ?_, ?_⟩ <;>
    decide +kernel

end Encoder

end PatchBay
