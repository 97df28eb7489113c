import Mathlib.Algebra.BigOperators.Group.List.Basic
import Mathlib.Algebra.GroupWithZero.Nat
import Mathlib.Tactic.SplitIfs
import PatchBay.Bus
import PatchBay.Output
import PatchBay.Proofs.Overlay

/-!
# The calls of a send

A send hands the driver what is left of the bytes, again and again, until nothing is left or the
driver fails or uses up nothing. Then it drains the driver's queue if nothing is left. It is watched
by the log of the driver's calls. The invariant of the loop is that the calls so far were each given
the bytes behind those used up before it, and that what is left are the bytes behind them all.
-/

namespace PatchBay

open CallLog

/-- Whether bytes are given to encode and transmit. -/
def Call.isTransmit : Call → Bool
  | .transmit .. => true
  | _ => false

/-- The driver never reports more bytes as used up than it was given. -/
def Driver.Fits {σ η : Type} (d : Driver σ η) : Prop :=
  ∀ s client port bytes e n, (d.transmit s client port bytes e).1 = .ok n → n ≤ bytes.length

theorem Driver.Fits.logged {σ η : Type} {d : Driver σ η} (h : d.Fits) : d.logged.Fits :=
  fun s client port bytes e n hn => h s.1 client port bytes e n hn

namespace Encoder

variable {σ η : Type} {d : Driver σ η} {client : ClientId} {port : PortId} {e : Encoder}
  {bytes rest : Bytes} {counts : List Nat} {log : List Entry} {n : Nat}

/-! ## Tiles -/

/-- The calls that used up so many bytes each, one behind the other. -/
def tiles (client : ClientId) (port : PortId) (bytes : Bytes) (counts : List Nat) : List Entry :=
  counts.mapIdx fun i n => ⟨.transmit client port (bytes.drop (counts.take i).sum), .used n⟩

theorem tiles_concat (counts : List Nat) (n : Nat) :
    tiles client port bytes (counts ++ [n]) =
      tiles client port bytes counts ++
        [⟨.transmit client port (bytes.drop counts.sum), .used n⟩] := by
  unfold tiles
  rw [List.mapIdx_concat, List.take_left]
  congr 1
  refine List.mapIdx_eq_mapIdx_iff.mpr fun i hi => ?_
  rw [List.take_append_of_le_length (Nat.le_of_lt hi)]

/-- The calls so far used up so many bytes each, and the rest is left. -/
structure Tiled (client : ClientId) (port : PortId) (bytes : Bytes) (counts : List Nat)
    (log : List Entry) (rest : Bytes) : Prop where
  log_eq : log = tiles client port bytes counts
  pos : ∀ n ∈ counts, 0 < n
  sum_le : counts.sum ≤ bytes.length
  rest_eq : rest = bytes.drop counts.sum

theorem tiled_nothing (client : ClientId) (port : PortId) (bytes : Bytes) :
    Tiled client port bytes [] [] bytes :=
  ⟨rfl, nofun, Nat.zero_le _, rfl⟩

/-- One more call that uses up something. -/
theorem Tiled.next (h : Tiled client port bytes counts log rest) (hn : 0 < n)
    (hfits : n ≤ rest.length) :
    Tiled client port bytes (counts ++ [n]) (log ++ [⟨.transmit client port rest, .used n⟩])
      (rest.drop n) := by
  obtain ⟨rfl, hpos, hsum, rfl⟩ := h
  rw [List.length_drop] at hfits
  refine ⟨(tiles_concat counts n).symm, fun m hm => ?_, ?_, ?_⟩
  · rcases List.mem_append.mp hm with hm | hm
    · exact hpos m hm
    · rw [List.mem_singleton.mp hm]
      exact hn
  · rw [List.sum_append, List.sum_singleton]
    omega
  · rw [List.drop_drop, List.sum_append, List.sum_singleton]

/-- As long as something is left, not all bytes are used up. -/
theorem Tiled.sum_lt (h : Tiled client port bytes counts log rest) (hrest : rest ≠ []) :
    counts.sum < bytes.length := by
  have hlen := List.length_pos_iff.mpr hrest
  rw [h.rest_eq, List.length_drop] at hlen
  omega

theorem Tiled.sum_eq (h : Tiled client port bytes counts log []) : counts.sum = bytes.length := by
  have hlen := congrArg List.length h.rest_eq
  rw [List.length_nil, List.length_drop] at hlen
  have hsum := h.sum_le
  omega

/-! ## The loop -/

/-- Why a send breaks off behind so many bytes, and what its last call came to. -/
inductive Breaks (offset : Nat) : SendError → Answer → Prop
  | stalled : Breaks offset (.stalled offset) (.used 0)
  | unencodable (err : DriverError) (h : err = .incomplete ∨ ∃ reason, err = .malformed reason) :
    Breaks offset (.encode offset err) (.failed err)
  | refused (err : DriverError) (h : err ≠ .incomplete ∧ ∀ reason, err ≠ .malformed reason) :
    Breaks offset (.transmit offset err) (.failed err)

theorem breaks_ofTransmit (offset : Nat) (err : DriverError) :
    Breaks offset (.ofTransmit offset err) (.failed err) := by
  cases err with
  | malformed reason => exact .unencodable _ (.inr ⟨reason, rfl⟩)
  | incomplete => exact .unencodable _ (.inl rfl)
  | unavailable | unsupported | unknownPort | backend => exact .refused _ (by simp)

/-- A call through the log. -/
theorem transmit_of_logged {s s' : σ × List Entry} {after : Encoder} {r : Except DriverError Nat}
    (h : d.logged.transmit s client port bytes e = (r, after, s')) :
    d.transmit s.1 client port bytes e = (r, after, s'.1) ∧
      s'.2 = s.2 ++ [⟨.transmit client port bytes, .of .used r⟩] := by
  cases h
  exact ⟨rfl, rfl⟩

theorem drain_of_logged {w w' : σ × List Entry} {r : Except DriverError Unit}
    (h : d.logged.drain w client = (r, w')) :
    d.drain w.1 client = (r, w'.1) ∧
      w'.2 = w.2 ++ [⟨.drain client, .of (fun _ => .done) r⟩] := by
  cases h
  exact ⟨rfl, rfl⟩

/-- The loop uses up all bytes or breaks off at a call. -/
theorem Tiled.transmitAll (hfits : d.Fits) {offset events : Nat} {s : σ × List Entry}
    (h : Tiled client port bytes counts s.2 rest) (hoffset : offset = counts.sum)
    (hevents : events = counts.length) :
    let sent := Encoder.transmitAll d.logged client port offset events rest e s
    ∃ counts log rest, Tiled client port bytes counts log rest ∧
      ((rest = [] ∧ sent.result = .ok counts.length ∧ sent.driver.2 = log) ∨
        (rest ≠ [] ∧ ∃ err answer, Breaks counts.sum err answer ∧ sent.result = .error err ∧
          sent.driver.2 = log ++ [⟨.transmit client port rest, answer⟩])) := by
  fun_induction Encoder.transmitAll d.logged client port offset events rest e s
    generalizing counts with
  | case1 => exact ⟨counts, _, [], h, .inl ⟨rfl, by rw [hevents], rfl⟩⟩
  | case2 offset events e s first more err after s' htransmit =>
    subst hoffset
    exact ⟨counts, s.2, first :: more, h,
      .inr ⟨List.cons_ne_nil _ _, _, _, breaks_ofTransmit _ err, rfl,
        (transmit_of_logged htransmit).2⟩⟩
  | case3 offset events e s first more after s' htransmit =>
    subst hoffset
    exact ⟨counts, s.2, first :: more, h,
      .inr ⟨List.cons_ne_nil _ _, _, _, .stalled, rfl,
        (transmit_of_logged htransmit).2⟩⟩
  | case4 offset events e s first more n after s' htransmit ih =>
    have hle : n + 1 ≤ (first :: more).length :=
      hfits.logged s client port (first :: more) e (n + 1) (congrArg Prod.fst htransmit)
    have hnext := h.next (Nat.succ_pos n) hle
    rw [List.drop_succ_cons] at hnext
    have hsum : offset + (n + 1) = (counts ++ [n + 1]).sum := by
      rw [hoffset, List.sum_append, List.sum_singleton]
    have hlength : events + 1 = (counts ++ [n + 1]).length := by
      rw [hevents, List.length_append, List.length_singleton]
    refine ih ?_ hsum hlength
    rw [(transmit_of_logged htransmit).2]
    exact hnext

/-- Where a driver answers as another does, so it does in the loop. -/
theorem transmitAll_answers {τ : Type} {d' : Driver τ η} {state : τ → σ} (h : d'.Answers d state)
    (client : ClientId) (port : PortId) (offset events : Nat) (rest : Bytes) (e : Encoder) (w : τ) :
    let sent := transmitAll d' client port offset events rest e w
    transmitAll d client port offset events rest e (state w) =
      ⟨sent.result, sent.encoder, state sent.driver⟩ := by
  fun_induction transmitAll d' client port offset events rest e w with
  | case1 => rw [transmitAll]
  | case2 offset events e w first more err after w' htransmit =>
    rw [transmitAll, h.transmit_eq, htransmit]
  | case3 offset events e w first more after w' htransmit =>
    rw [transmitAll, h.transmit_eq, htransmit]
  | case4 offset events e w first more n after w' htransmit ih =>
    rw [transmitAll, h.transmit_eq, htransmit]
    exact ih

/-! ## The whole send -/

theorem reserve_error {n : Nat} {err : Unreservable} (h : (e.reserve n).1 = .error err) :
    err.required = n ∧ maxCapacity < n := by
  unfold reserve at h
  split_ifs at h with hfits hlarge
  · cases h
    exact ⟨rfl, Nat.lt_of_not_le hlarge⟩

theorem send_unreservable {s : σ} {grown : Encoder} {err : Unreservable} (hne : bytes ≠ [])
    (hreserve : e.reserve bytes.length = (.error err, grown)) :
    e.send d client port bytes s = ⟨.error (.resize err.required), grown, s⟩ := by
  rw [send, if_neg hne, hreserve]

theorem send_broken {s s' : σ} {grown after : Encoder} {reserved : Bool} {err : SendError}
    (hne : bytes ≠ []) (hreserve : e.reserve bytes.length = (.ok reserved, grown))
    (hloop : transmitAll d client port 0 0 bytes grown s = ⟨.error err, after, s'⟩) :
    e.send d client port bytes s = ⟨.error err, after, s'⟩ := by
  simp only [send, if_neg hne, hreserve, hloop]

theorem send_drained {s s' s'' : σ} {grown after : Encoder} {reserved : Bool} {events : Nat}
    {drained : Except DriverError Unit} (hne : bytes ≠ [])
    (hreserve : e.reserve bytes.length = (.ok reserved, grown))
    (hloop : transmitAll d client port 0 0 bytes grown s = ⟨.ok events, after, s'⟩)
    (hdrain : d.drain s' client = (drained, s'')) :
    e.send d client port bytes s =
      ⟨(drained.mapError .drain).map fun _ => events, after, s''⟩ := by
  cases drained with
  | error err =>
    simp only [send, if_neg hne, hreserve, hloop, hdrain]
    rfl
  | ok _ =>
    simp only [send, if_neg hne, hreserve, hloop, hdrain]
    rfl

/-- What a send may come to, with the calls that it makes for that. Where it gets as far as the
loop, the calls of the loop but for a last one that breaks off use up so many bytes each. -/
inductive Course (client : ClientId) (port : PortId) (bytes : Bytes) :
    Except SendError Nat → List Entry → Prop
  | nothing (h : bytes = []) : Course client port bytes (.ok 0) []
  | unreservable (h : maxCapacity < bytes.length) :
    Course client port bytes (.error (.resize bytes.length)) []
  | drained (counts : List Nat) (hne : bytes ≠ []) (hpos : ∀ n ∈ counts, 0 < n)
      (hall : counts.sum = bytes.length) :
    Course client port bytes (.ok counts.length)
      (tiles client port bytes counts ++ [⟨.drain client, .done⟩])
  | undrained (counts : List Nat) (hne : bytes ≠ []) (hpos : ∀ n ∈ counts, 0 < n)
      (hall : counts.sum = bytes.length) (err : DriverError) :
    Course client port bytes (.error (.drain err))
      (tiles client port bytes counts ++ [⟨.drain client, .failed err⟩])
  | broken (counts : List Nat) (hpos : ∀ n ∈ counts, 0 < n) (hleft : counts.sum < bytes.length)
      {err : SendError} {answer : Answer} (h : Breaks counts.sum err answer) :
    Course client port bytes (.error err)
      (tiles client port bytes counts ++
        [⟨.transmit client port (bytes.drop counts.sum), answer⟩])

theorem send_course (hfits : d.Fits) (client : ClientId) (port : PortId) (bytes : Bytes)
    (e : Encoder) (s : σ) :
    Course client port bytes (e.send d.logged client port bytes (s, [])).result
      (e.send d.logged client port bytes (s, [])).driver.2 := by
  by_cases hne : bytes = []
  · rw [send, if_pos hne]
    exact .nothing hne
  cases hreserve : e.reserve bytes.length with
  | mk reserved grown =>
    cases reserved with
    | error err =>
      obtain ⟨hrequired, hlarge⟩ := reserve_error (congrArg Prod.fst hreserve)
      rw [send_unreservable hne hreserve, hrequired]
      exact .unreservable hlarge
    | ok _ =>
      obtain ⟨counts, log, rest, htiled, hloop⟩ := (tiled_nothing client port bytes).transmitAll
        hfits (e := grown) (s := (s, [])) List.sum_nil.symm List.length_nil.symm
      cases hsent : transmitAll d.logged client port 0 0 bytes grown (s, []) with
      | mk result after w =>
        rw [hsent] at hloop
        dsimp only at hloop
        rcases hloop with ⟨rfl, rfl, rfl⟩ | ⟨hrest, err, answer, hbreaks, rfl, hlog⟩
        · have hall := htiled.sum_eq
          cases hdrain : d.logged.drain w client with
          | mk drained w' =>
            rw [send_drained hne hreserve hsent hdrain, (drain_of_logged hdrain).2, htiled.log_eq]
            cases drained with
            | error err => exact .undrained counts hne htiled.pos hall err
            | ok _ => exact .drained counts hne htiled.pos hall
        · rw [send_broken hne hreserve hsent, hlog, htiled.log_eq, htiled.rest_eq]
          exact .broken counts htiled.pos (htiled.sum_lt hrest) hbreaks

/-- Where a driver answers as another does, a send comes to the same. -/
theorem send_answers {τ : Type} {d' : Driver τ η} {state : τ → σ} (h : d'.Answers d state)
    (client : ClientId) (port : PortId) (bytes : Bytes) (e : Encoder) (w : τ) :
    e.send d client port bytes (state w) =
      ⟨(e.send d' client port bytes w).result, (e.send d' client port bytes w).encoder,
        state (e.send d' client port bytes w).driver⟩ := by
  by_cases hne : bytes = []
  · rw [send, send, if_pos hne, if_pos hne]
  cases hreserve : e.reserve bytes.length with
  | mk reserved grown =>
    cases reserved with
    | error err => rw [send_unreservable hne hreserve, send_unreservable hne hreserve]
    | ok _ =>
      have hplain := transmitAll_answers h client port 0 0 bytes grown w
      cases hsent : transmitAll d' client port 0 0 bytes grown w with
      | mk result after w' =>
        rw [hsent] at hplain
        cases result with
        | error err => rw [send_broken hne hreserve hsent, send_broken hne hreserve hplain]
        | ok events =>
          cases hdrain : d'.drain w' client with
          | mk drained w'' =>
            have hdrain' := h.drain_eq w' client
            rw [hdrain] at hdrain'
            rw [send_drained hne hreserve hsent hdrain, send_drained hne hreserve hplain hdrain']

/-- Every call of a send but a last one that breaks off uses up a byte at least. -/
theorem Course.transmits_le {result : Except SendError Nat}
    (h : Course client port bytes result log) :
    log.countP (·.call.isTransmit) ≤ bytes.length := by
  have htiles : ∀ counts : List Nat, (∀ n ∈ counts, 0 < n) →
      (tiles client port bytes counts).countP (·.call.isTransmit) ≤ counts.sum := by
    intro counts hpos
    refine Nat.le_trans List.countP_le_length ?_
    rw [tiles, List.length_mapIdx]
    exact List.length_le_sum_of_one_le counts hpos
  cases h with
  | nothing h => exact Nat.zero_le _
  | unreservable h => exact Nat.zero_le _
  | drained counts hne hpos hall =>
    rw [List.countP_append, ← hall]
    exact htiles counts hpos
  | undrained counts hne hpos hall err =>
    rw [List.countP_append, ← hall]
    exact htiles counts hpos
  | broken counts hpos hleft h =>
    rw [List.countP_append]
    exact Nat.lt_of_le_of_lt (htiles counts hpos) hleft

/-- A driver that never uses up nothing does not let a send stall. -/
theorem send_not_stalled {s : σ}
    (hmoves : ∀ s bytes e, (d.transmit s client port bytes e).1 ≠ .ok 0) (offset : Nat) :
    (e.send d client port bytes s).result ≠ .error (.stalled offset) := by
  have hloop : ∀ start events rest e s,
      (transmitAll d client port start events rest e s).result ≠ .error (.stalled offset) := by
    intro start events rest e s
    fun_induction transmitAll d client port start events rest e s with
    | case1 => simp
    | case2 _ _ _ _ _ _ err =>
      unfold SendError.ofTransmit
      split
      · simp
      · simp
    | case3 _ _ e s first more _ _ htransmit =>
      exact absurd (congrArg Prod.fst htransmit) (hmoves s (first :: more) e)
    | case4 _ _ _ _ _ _ _ _ _ _ ih => exact ih
  by_cases hne : bytes = []
  · rw [send, if_pos hne]
    simp
  cases hreserve : e.reserve bytes.length with
  | mk reserved grown =>
    cases reserved with
    | error err =>
      rw [send_unreservable hne hreserve]
      simp
    | ok _ =>
      have hresult := hloop 0 0 bytes grown s
      cases hsent : transmitAll d client port 0 0 bytes grown s with
      | mk result after s' =>
        rw [hsent] at hresult
        cases result with
        | error err =>
          rw [send_broken hne hreserve hsent]
          exact hresult
        | ok events =>
          cases hdrain : d.drain s' client with
          | mk drained s'' =>
            rw [send_drained hne hreserve hsent hdrain]
            cases drained with
            | error err => simp [Except.mapError, Except.map]
            | ok _ => simp [Except.mapError, Except.map]

end Encoder

/-! ## On the bus -/

/-- The bus uses up what its encoder does. -/
theorem Bus.transmit_ok {η : Type} {b : Bus η} {client : ClientId} {port : PortId} {bytes : Bytes}
    {e : Encoder} {n : Nat} (h : (b.transmit client port bytes e).1 = .ok n) :
    0 < n ∧ n ≤ bytes.length := by
  unfold Bus.transmit at h
  split at h
  · cases h
  · split at h
    · cases h
    · unfold Encoder.encodeFor at h
      cases hencode : e.encode bytes with
      | mk result after =>
        rw [hencode] at h
        cases result with
        | error err => cases h
        | ok m =>
          cases h
          exact Encoder.encode_consumed hencode

theorem Bus.driver_fits {η : Type} (settings : Settings) :
    (Bus.driver settings : Driver (Bus η) η).Fits :=
  fun _ _ _ _ _ _ h => (Bus.transmit_ok h).2

namespace Encoder

/-- **A send tiles its bytes.** Take any driver that reports no more bytes as used up than it was
given, in any state, and any encoder. Whether its calls are logged makes no difference to a send.
The calls are those of a `Course`: each is given the bytes behind those used up before it, all but a
last one use up something, a call that fails or uses up nothing is the last one and decides the
error, and the queue is drained once, at the end, if there are bytes and all of them are used up.
There are no more calls than bytes. On the bus a send never stalls. -/
theorem send_tiles {σ η : Type} (d : Driver σ η) (hfits : d.Fits) (client : ClientId)
    (port : PortId) (bytes : Bytes) (e : Encoder) (s : σ) :
    let sent := e.send d.logged client port bytes (s, [])
    e.send d client port bytes s = ⟨sent.result, sent.encoder, sent.driver.1⟩ ∧
    Course client port bytes sent.result sent.driver.2 ∧
    sent.driver.2.countP (·.call.isTransmit) ≤ bytes.length ∧
    ∀ (settings : Bus.Settings) (b : Bus η) (offset : Nat),
      (e.send (Bus.driver settings) client port bytes b).result ≠ .error (.stalled offset) := by
  intro sent
  have hcourse := send_course hfits client port bytes e s
  refine ⟨send_answers d.answers_logged client port bytes e (s, []), hcourse, hcourse.transmits_le,
    fun settings b offset => ?_⟩
  refine send_not_stalled (fun b bytes e hzero => ?_) offset
  have hpos := (Bus.transmit_ok hzero).1
  exact Nat.lt_irrefl 0 hpos

/-- A note goes out on the bus, and behind it stands a byte that is no event. -/
theorem send_tiles_stray_end :
    let d : Driver (Bus Unit) Unit := Bus.driver {}
    let opened := d.openClient {} "writer"
    let registered := d.registerPort opened.2 ⟨1⟩ "out" .output .virtual
    let sent := (ofCapacity 32).send d.logged ⟨1⟩ ⟨2⟩ [0x90, 0x3C, 0x40, 0xF7] (registered.2, [])
    let err : DriverError := .malformed "end of exclusive without a SysEx in progress"
    d.Fits ∧ sent.result = .error (.encode 3 err) ∧
      sent.driver.2 = [⟨.transmit ⟨1⟩ ⟨2⟩ [0x90, 0x3C, 0x40, 0xF7], .used 3⟩,
        ⟨.transmit ⟨1⟩ ⟨2⟩ [0xF7], .failed err⟩] ∧
      Course ⟨1⟩ ⟨2⟩ [0x90, 0x3C, 0x40, 0xF7] sent.result sent.driver.2 := by
  intro d opened registered sent err
  have hfits : d.Fits := Bus.driver_fits {}
  obtain ⟨-, hcourse, -, -⟩ :=
    send_tiles d hfits ⟨1⟩ ⟨2⟩ [0x90, 0x3C, 0x40, 0xF7] (ofCapacity 32) registered.2
  refine ⟨hfits, ?_, ?_, hcourse⟩
  · decide +kernel
  · decide +kernel

end Encoder

end PatchBay
