import PatchBay.Proofs.Staging

/-!
# What the self test comes to

The client sends all messages before it receives the first one. Meanwhile they wait, on the bus as
long as the dispatcher has not come to them and in the input's queue from then on, and that queue
has no more room than the configuration gives it. So it depends on the dispatcher whether the self
test passes: it has to be slow enough.
-/

namespace PatchBay

namespace Command

open Session

variable {c : Config} {pace : Nat → Nat} {capacity count n h r : Nat} {s s' : Session}
  {sent todo : List Bytes} {m : Bytes}

/-! ## The pace of the dispatcher -/

/-- How many batches the dispatcher has handled when the client has taken `n` steps, each after a
pause of `pace`, if nothing was lost. The client sends `count` messages and then receives as many;
while it waits for one, the dispatcher handles the batch. -/
def handled (pace : Nat → Nat) (count : Nat) : Nat → Nat
  | 0 => 0
  | n + 1 => max (min (min n count) (handled pace count n + pace n)) (n + 1 - count)

/-- How many messages wait in the input's queue when the client is about to take the step with the
number `n`, if nothing was lost. -/
def crowd (pace : Nat → Nat) (count n : Nat) : Nat :=
  min (min n count) (handled pace count n + pace n) - (n - count)

/-- The queue has room for all that wait in it. -/
def Roomy (pace : Nat → Nat) (count capacity : Nat) : Prop :=
  ∀ n < 2 * count, crowd pace count n ≤ capacity

instance (pace : Nat → Nat) (count capacity : Nat) : Decidable (Roomy pace count capacity) :=
  inferInstanceAs (Decidable (∀ n < 2 * count, _))

theorem handled_le (hn : n ≤ 2 * count) :
    n - count ≤ handled pace count n ∧ handled pace count n ≤ min n count := by
  induction n with
  | zero => simp [handled]
  | succ n ih =>
    have hbefore := ih (by omega)
    rw [handled]
    omega

theorem crowd_le (pace : Nat → Nat) (count n : Nat) : crowd pace count n ≤ count := by
  rw [crowd]
  omega

/-- A dispatcher that leaves nothing on the bus is never more than one message behind. -/
theorem handled_hasty (hn : n ≤ count) : handled (fun _ => count) count n = n - 1 := by
  induction n with
  | zero => rfl
  | succ n ih =>
    rw [handled, ih (by omega)]
    omega

/-- It makes all messages wait in the queue. -/
theorem crowd_hasty (count : Nat) : crowd (fun _ => count) count count = count := by
  rw [crowd, handled_hasty (Nat.le_refl count)]
  omega

/-! ## Nothing is lost -/

/-- The messages `sent` are all there: `r` of them were received, and the dispatcher has handled
`h`. -/
def Intact (c : Config) (capacity : Nat) (sent : List Bytes) (h r : Nat) (s : Session) : Prop :=
  s.Stage c capacity (sent.drop h) ((sent.take h).drop r) (sent.take r)

/-- Of the messages `sent`, `r` were received, and not all others are there. -/
def Short (c : Config) (capacity : Nat) (sent : List Bytes) (r : Nat) (s : Session) : Prop :=
  ∃ queued waiting heard, s.Stage c capacity queued waiting heard ∧ heard.length = r ∧
    queued.length + waiting.length + r < sent.length

theorem length_waiting (hh : h ≤ sent.length) (r : Nat) :
    ((sent.take h).drop r).length = h - r := by
  rw [List.length_drop, List.length_take_of_le hh]

/-- While the client pauses, nothing is lost if there is room for what then waits. -/
theorem Intact.pause (hs : Intact c capacity sent h r s) (hr : r ≤ h) (hh : h ≤ sent.length)
    (p : Nat) (hroom : min sent.length (h + p) - r ≤ capacity) :
    Intact c capacity sent (min sent.length (h + p)) r (s.dispatchMany p) := by
  have hqueued : (sent.drop h).length = sent.length - h := List.length_drop
  have hwaiting : ((sent.take h).drop r).length = h - r := length_waiting hh r
  have hmoved := Stage.dispatchMany hs p (by omega)
  have hdrop : (sent.drop h).drop p = sent.drop (min sent.length (h + p)) := by
    rw [List.drop_drop]
    by_cases hle : h + p ≤ sent.length
    · rw [Nat.min_eq_right hle]
    · rw [Nat.min_eq_left (by omega), List.drop_length, List.drop_eq_nil_of_le (by omega)]
  have htake : (sent.take h).drop r ++ (sent.drop h).take p =
      (sent.take (min sent.length (h + p))).drop r := by
    rw [Nat.min_comm, ← List.take_eq_take_min, List.take_add,
      List.drop_append_of_le_length (by rw [List.length_take_of_le hh]; exact hr)]
  rw [hdrop, htake] at hmoved
  exact hmoved

theorem Intact.pause_full (hs : Intact c capacity sent h r s) (hr : r ≤ h) (hh : h ≤ sent.length)
    (p : Nat) (hfull : capacity < min sent.length (h + p) - r) :
    Short c capacity sent r (s.dispatchMany p) := by
  have hqueued : (sent.drop h).length = sent.length - h := List.length_drop
  have hwaiting : ((sent.take h).drop r).length = h - r := length_waiting hh r
  obtain ⟨queued, waiting, hstage, hless⟩ := Stage.dispatchMany_lossy hs p (by omega)
  refine ⟨queued, waiting, _, hstage, List.length_take_of_le (by omega), ?_⟩
  omega

theorem Short.pause (hs : Short c capacity sent r s) (p : Nat) :
    Short c capacity sent r (s.dispatchMany p) := by
  obtain ⟨queued, waiting, heard, hstage, hheard, hless⟩ := hs
  obtain ⟨queued', waiting', hstage', hle⟩ := hstage.dispatchMany_length p
  exact ⟨queued', waiting', heard, hstage', hheard, by omega⟩

/-! ## Sending -/

theorem Intact.emit (hs : Intact c capacity sent h r s) (hr : r ≤ h) (hh : h ≤ sent.length)
    (hm : Travels m) :
    ∃ s', (Session.emit .message m).run s = (.ok (), s') ∧
      Intact c capacity (sent ++ [m]) h r s' := by
  obtain ⟨s', hrun, hstage⟩ := Stage.emit hs hm .message
  refine ⟨s', hrun, ?_⟩
  rw [Intact, List.drop_append_of_le_length hh, List.take_append_of_le_length hh,
    List.take_append_of_le_length (hr.trans hh)]
  exact hstage

theorem Short.emit (hs : Short c capacity sent r s) (hm : Travels m) :
    ∃ s', (Session.emit .message m).run s = (.ok (), s') ∧
      Short c capacity (sent ++ [m]) r s' := by
  obtain ⟨queued, waiting, heard, hstage, hheard, hless⟩ := hs
  obtain ⟨s', hrun, hstage'⟩ := hstage.emit hm .message
  refine ⟨s', hrun, queued ++ [m], waiting, heard, hstage', hheard, ?_⟩
  rw [List.length_append, List.length_append, List.length_singleton]
  omega

/-- Sends messages one after the other. -/
def sendEach (pace : Nat → Nat) : Nat → List Bytes → Step Unit
  | _, [] => pure ()
  | n, m :: rest => do
    modify (dispatchMany (pace n))
    Session.emit .message m
    sendEach pace (n + 1) rest

/-- Where the session stands when the client has taken some steps: nothing was lost and there was
room at all of them, or something was lost at one at which there was none. -/
def Stands (c : Config) (capacity : Nat) (pace : Nat → Nat) (count n : Nat) (sent : List Bytes)
    (s : Session) : Prop :=
  Intact c capacity sent (handled pace count n) (n - count) s ∧
      (∀ k < n, crowd pace count k ≤ capacity) ∨
    Short c capacity sent (n - count) s ∧ ∃ k < n, capacity < crowd pace count k

/-- What a pause makes of it. -/
theorem Stands.pause (hs : Stands c capacity pace count n sent s) (hn : n ≤ 2 * count)
    (hsent : sent.length = min n count) :
    Intact c capacity sent (min (min n count) (handled pace count n + pace n)) (n - count)
        (s.dispatchMany (pace n)) ∧ (∀ k < n + 1, crowd pace count k ≤ capacity) ∨
      Short c capacity sent (n - count) (s.dispatchMany (pace n)) ∧
        ∃ k < n + 1, capacity < crowd pace count k := by
  have hbounds : n - count ≤ handled pace count n ∧ handled pace count n ≤ min n count :=
    handled_le hn
  obtain ⟨hlow, hhigh⟩ := hbounds
  rcases hs with ⟨hintact, hroomy⟩ | ⟨hshort, k, hk, hfull⟩
  · rw [← hsent] at hhigh
    by_cases hcrowd : crowd pace count n ≤ capacity
    · refine .inl ⟨?_, fun k hk => ?_⟩
      · rw [← hsent]
        rw [crowd, ← hsent] at hcrowd
        exact hintact.pause hlow hhigh (pace n) hcrowd
      · rcases Nat.lt_succ_iff_lt_or_eq.mp hk with hk | rfl
        · exact hroomy k hk
        · exact hcrowd
    · refine .inr ⟨?_, n, Nat.lt_succ_self n, Nat.lt_of_not_le hcrowd⟩
      rw [crowd, ← hsent] at hcrowd
      exact hintact.pause_full hlow hhigh (pace n) (Nat.lt_of_not_le hcrowd)
  · exact .inr ⟨hshort.pause (pace n), k, Nat.lt_succ_of_lt hk, hfull⟩

theorem Stands.send (hs : Stands c capacity pace count n sent s) (hsent : sent.length = n)
    (hn : n < count) (hm : Travels m) :
    ∃ s', (Session.emit .message m).run (s.dispatchMany (pace n)) = (.ok (), s') ∧
      Stands c capacity pace count (n + 1) (sent ++ [m]) s' := by
  have hnow : n - count = 0 := by omega
  have hnext : n + 1 - count = 0 := by omega
  rcases hs.pause (by omega) (by omega) with ⟨hintact, hroomy⟩ | ⟨hshort, hfull⟩
  · obtain ⟨s', hrun, hafter⟩ := hintact.emit (by omega) (by omega) hm
    refine ⟨s', hrun, .inl ⟨?_, hroomy⟩⟩
    rw [handled, hnext, Nat.max_zero, ← hnow]
    exact hafter
  · obtain ⟨s', hrun, hafter⟩ := hshort.emit hm
    refine ⟨s', hrun, .inr ⟨?_, hfull⟩⟩
    rw [hnext, ← hnow]
    exact hafter

/-- Sending succeeds, whatever is lost meanwhile. -/
theorem Stands.sendEach (hs : Stands c capacity pace count n sent s) (hsent : sent.length = n)
    (htodo : n + todo.length = count) (hm : ∀ m ∈ todo, Travels m) :
    ∃ s', (sendEach pace n todo).run s = (.ok (), s') ∧
      Stands c capacity pace count count (sent ++ todo) s' := by
  induction todo generalizing n sent s with
  | nil =>
    rw [List.length_nil, Nat.add_zero] at htodo
    subst htodo
    rw [List.append_nil]
    exact ⟨s, rfl, hs⟩
  | cons m todo ih =>
    rw [List.length_cons] at htodo
    obtain ⟨s1, hemit, hstands⟩ := hs.send hsent (by omega) (hm m List.mem_cons_self)
    have hlength : (sent ++ [m]).length = n + 1 := by
      rw [List.length_append, hsent, List.length_singleton]
    obtain ⟨s', hrun, hdone⟩ := ih hstands hlength (by omega)
      fun m' hm' => hm m' (List.mem_cons_of_mem m hm')
    refine ⟨s', ?_, ?_⟩
    · rw [Command.sendEach, run_bind_ok (run_modify _), run_bind_ok hemit, hrun]
    · rwa [List.append_assoc] at hdone

/-! ## Receiving -/

/-- As long as nothing is lost, the client gets the message whose turn it is. -/
theorem Intact.await (hs : Intact c capacity sent h r s) (hr : r ≤ h) (hh : h ≤ sent.length)
    (hmore : r < sent.length) (hcapacity : 0 < capacity) :
    ∃ message s', s.await = (some message, s') ∧ message.bytes = sent[r] ∧
      Intact c capacity sent (max h (r + 1)) (r + 1) (s'.tell (.message "  " message "")) := by
  have hheard : sent.take (r + 1) = sent.take r ++ [sent[r]] :=
    List.take_succ_eq_append_getElem hmore
  rcases Nat.lt_or_eq_of_le hr with hlt | rfl
  · -- it waits in the input's queue
    have hwaiting : (sent.take h).drop r = sent[r] :: (sent.take h).drop (r + 1) := by
      have hbound : r < (sent.take h).length := by
        rw [List.length_take_of_le hh]
        exact hlt
      rw [List.drop_eq_getElem_cons hbound, List.getElem_take]
    rw [Intact, hwaiting] at hs
    obtain ⟨message, s', hawait, hbytes, hstage⟩ := Stage.await_waiting hs
    refine ⟨message, s', hawait, hbytes, ?_⟩
    rw [Intact, Nat.max_eq_left hlt, hheard]
    exact hstage.tell_message hbytes _ _
  · -- it is the next one on the bus
    have hqueued : sent.drop r = sent[r] :: sent.drop (r + 1) := List.drop_eq_getElem_cons hmore
    have hempty (n : Nat) : (sent.take n).drop n = [] :=
      List.drop_eq_nil_of_le (List.length_take_le n sent)
    rw [Intact, hqueued, hempty] at hs
    obtain ⟨message, s', hawait, hbytes, hstage⟩ := Stage.await_queued hs hcapacity
    refine ⟨message, s', hawait, hbytes, ?_⟩
    rw [Intact, Nat.max_eq_right (Nat.le_succ r), hempty, hheard]
    exact hstage.tell_message hbytes _ _

/-- Once something is lost, a message comes or none does. -/
theorem Short.await (hs : Short c capacity sent r s) (hcapacity : 0 < capacity) :
    (∃ message s', s.await = (some message, s') ∧
        Short c capacity sent (r + 1) (s'.tell (.message "  " message ""))) ∨
      s.await = (none, s) := by
  obtain ⟨queued, waiting, heard, hstage, hheard, hless⟩ := hs
  have hlonger (m : Bytes) : (heard ++ [m]).length = r + 1 := by
    rw [List.length_append, hheard, List.length_singleton]
  cases waiting with
  | cons m waiting =>
    rw [List.length_cons] at hless
    obtain ⟨message, s', hawait, hbytes, hafter⟩ := hstage.await_waiting
    exact .inl ⟨message, s', hawait, queued, waiting, _, hafter.tell_message hbytes _ _, hlonger m,
      by omega⟩
  | nil =>
    cases queued with
    | cons m queued =>
      rw [List.length_cons] at hless
      obtain ⟨message, s', hawait, hbytes, hafter⟩ := hstage.await_queued hcapacity
      exact .inl ⟨message, s', hawait, queued, [], _, hafter.tell_message hbytes _ _, hlonger m,
        by omega⟩
    | nil => exact .inr hstage.await_none

variable {received : List Bytes} {left : Nat} {message : Message}

theorem run_receiveAll_some
    (h : (s.dispatchMany (pace (count + received.length))).await = (some message, s')) :
    (receiveAll pace count (left + 1) received).run s =
      (receiveAll pace count left (received ++ [message.bytes])).run
        (s'.tell (.message "  " message "")) := by
  rw [receiveAll, run_bind_ok run_get, h]
  dsimp only
  rw [run_bind_ok (run_set s'), run_bind_ok (run_modify _)]

theorem run_receiveAll_none
    (h : (s.dispatchMany (pace (count + received.length))).await = (none, s')) :
    (receiveAll pace count (left + 1) received).run s =
      (.error (.timedOut received.length count), s') := by
  rw [receiveAll, run_bind_ok run_get, h]
  dsimp only
  rw [run_bind_ok (run_set s')]
  rfl

/-- Not all messages were received as long as one that was sent is missing. -/
theorem Short.lt (hs : Short c capacity sent r s) : r < sent.length := by
  obtain ⟨queued, waiting, heard, -, -, hless⟩ := hs
  omega

/-- How the client ends when it has sent messages and received them: with a value and all of them
told of, if there always was room, and otherwise waiting in vain for one. -/
inductive Ends {α : Type} (pace : Nat → Nat) (capacity : Nat) (sent : List Bytes) (value : α) :
    Except Failure α × Session → Prop where
  | well {s : Session} : Roomy pace sent.length capacity →
    s.lines.filterMap Line.heard? = sent → Ends pace capacity sent value (.ok value, s)
  | badly {s : Session} {k : Nat} : ¬ Roomy pace sent.length capacity → k < sent.length →
    Ends pace capacity sent value (.error (.timedOut k sent.length), s)

/-- The client waits in vain for what was lost. -/
theorem Short.receiveAll (hnot : ¬ Roomy pace sent.length capacity) (hcapacity : 0 < capacity)
    (hreceived : received.length = r)
    (hs : Short c capacity sent r (s.dispatchMany (pace (sent.length + received.length))))
    (hleft : r + (left + 1) = sent.length) :
    Ends pace capacity sent sent ((receiveAll pace sent.length (left + 1) received).run s) := by
  induction left generalizing s r received with
  | zero =>
    rcases hs.await hcapacity with ⟨message, s', hawait, hafter⟩ | hnone
    · have hlt := hafter.lt
      omega
    · rw [run_receiveAll_none hnone]
      exact .badly hnot (by omega)
  | succ left ih =>
    rcases hs.await hcapacity with ⟨message, s', hawait, hafter⟩ | hnone
    · have hlength : (received ++ [message.bytes]).length = r + 1 := by
        rw [List.length_append, hreceived, List.length_singleton]
      rw [run_receiveAll_some hawait]
      exact ih hlength (hafter.pause _) (by omega)
    · rw [run_receiveAll_none hnone]
      exact .badly hnot (by omega)

/-- Receiving what is left, when nothing was lost so far. -/
theorem Intact.receiveAll (hs : Intact c capacity sent (handled pace sent.length n) r s)
    (hroomy : ∀ k < n, crowd pace sent.length k ≤ capacity) (hcapacity : 0 < capacity)
    (hn : n = sent.length + r) (hleft : r + left = sent.length) :
    Ends pace capacity sent sent ((receiveAll pace sent.length left (sent.take r)).run s) := by
  induction left generalizing s n r with
  | zero =>
    have hall : r = sent.length := hleft
    subst hall
    have hlines := Stage.lines hs
    rw [List.take_length] at hlines ⊢
    exact .well (fun k hk => hroomy k (by omega)) hlines
  | succ left ih =>
    have hlate : n - sent.length = r := by omega
    have hlength : (sent.take r).length = r := List.length_take_of_le (by omega)
    have hstep : sent.length + (sent.take r).length = n := by rw [hlength, hn]
    have hstands : Stands c capacity pace sent.length n sent s := by
      rw [← hlate] at hs
      exact .inl ⟨hs, hroomy⟩
    have hbounds : n - sent.length ≤ handled pace sent.length n ∧
        handled pace sent.length n ≤ min n sent.length := handled_le (by omega)
    obtain ⟨hlow, hhigh⟩ := hbounds
    rcases hstands.pause (by omega) (by omega) with ⟨hintact, hroomy'⟩ | ⟨hshort, k, hk, hfull⟩
    · have hmore : r < sent.length := by omega
      rw [hlate] at hintact
      obtain ⟨message, s', hawait, hbytes, hafter⟩ :=
        hintact.await (by omega) (by omega) hmore hcapacity
      have hhandled : handled pace sent.length (n + 1) =
          max (min (min n sent.length) (handled pace sent.length n + pace n)) (r + 1) := by
        rw [handled]
        congr 1
        omega
      rw [← hhandled] at hafter
      rw [← hstep] at hawait
      rw [run_receiveAll_some hawait, hbytes, ← List.take_succ_eq_append_getElem hmore]
      exact ih hafter hroomy' (by omega) (by omega)
    · have hnot : ¬ Roomy pace sent.length capacity :=
        fun hall => Nat.not_lt.mpr (hall k (by omega)) hfull
      rw [hlate, ← hstep] at hshort
      exact Short.receiveAll hnot hcapacity hlength hshort hleft

/-- The same for a client that has sent all messages, whether or not something is lost already. -/
theorem Stands.receiveAll (hs : Stands c capacity pace sent.length sent.length sent s)
    (hcapacity : 0 < capacity) :
    Ends pace capacity sent sent ((receiveAll pace sent.length sent.length []).run s) := by
  rw [Stands, Nat.sub_self] at hs
  rcases hs with ⟨hintact, hroomy⟩ | ⟨hshort, k, hk, hfull⟩
  · exact hintact.receiveAll hroomy hcapacity rfl (Nat.zero_add _)
  · have hnot : ¬ Roomy pace sent.length capacity :=
      fun hall => Nat.not_lt.mpr (hall k (by omega)) hfull
    obtain ⟨left, hleft⟩ := Nat.exists_add_one_eq.mpr hshort.lt
    have hends : Ends pace capacity sent sent
        ((Command.receiveAll pace sent.length (left + 1) []).run s) :=
      Short.receiveAll hnot hcapacity rfl (hshort.pause _) ((Nat.zero_add _).trans hleft)
    rwa [hleft] at hends

/-! ## The whole self test -/

/-- Compares what was received with what was sent. -/
def compare (received : List Bytes) : Step Unit :=
  if received = testMessages then
    say ("Self test passed: " ++ toString testMessages.length ++ " messages round tripped")
  else throw (.mismatch testMessages received)

theorem testRoundTrip_eq (pace : Nat → Nat) (c : Config) :
    testRoundTrip pace c = (do
      withOutput .port (Output.ofSettings c.output) fun o bus =>
        o.openVirtualPort driver bus c.output.portName
      withInput .port (Input.ofSettings
        { c.input with filter := { c.input.filter with ignoreSysex := false } } .queue ())
        fun i bus => i.openPort driver bus 0 c.input.portName
      sendEach pace 0 testMessages
      let received ← receiveAll pace testMessages.length testMessages.length []
      compare received) := by
  simp [testRoundTrip, compare, sendEach, testMessages]

/-- If the names fit, both ports are opened, and nothing is on its way then. -/
theorem run_testRoundTrip (h : c.FitsBus) (pace : Nat → Nat) :
    ∃ s, s.Stage c (max c.input.queueCapacity 1) [] [] [] ∧
      (testRoundTrip pace c).run {} =
        (do
          sendEach pace 0 testMessages
          let received ← receiveAll pace testMessages.length testMessages.length []
          compare received : Step Unit).run s := by
  let settings : Input.Settings :=
    { c.input with filter := { c.input.filter with ignoreSysex := false } }
  obtain ⟨o, hlink, hfirst⟩ := openVirtualPort_first h
  obtain ⟨i, hholds, hsecond⟩ := openPort_second h settings rfl rfl
  have houtput : (withOutput .port (Output.ofSettings c.output) fun o bus =>
      o.openVirtualPort driver bus c.output.portName).run {} = _ := run_withOutput hfirst
  have hinput : (withInput .port (Input.ofSettings settings .queue ()) fun i bus =>
      i.openPort driver bus 0 c.input.portName).run { bus := published c, output := some o } = _ :=
    run_withInput hsecond
  refine ⟨{ bus := Bus.wired c [], output := some o, input := some i },
    ⟨rfl, fun m hm => absurd hm List.not_mem_nil, ⟨o, rfl, hlink⟩, ⟨i, rfl, hholds⟩, rfl⟩, ?_⟩
  rw [testRoundTrip_eq, run_bind_ok houtput, run_bind_ok hinput]

/-- What the self test comes to. -/
theorem testRoundTrip_ends (h : c.FitsBus) (pace : Nat → Nat) :
    Ends pace (max c.input.queueCapacity 1) testMessages () ((testRoundTrip pace c).run {}) := by
  obtain ⟨s, hstage, hopened⟩ := run_testRoundTrip h pace
  have hstands : Stands c (max c.input.queueCapacity 1) pace testMessages.length 0 [] s :=
    .inl ⟨hstage, fun k hk => absurd hk (Nat.not_lt_zero k)⟩
  obtain ⟨s1, hsend, hsent⟩ := hstands.sendEach rfl (Nat.zero_add _) testMessages_travel
  rw [List.nil_append] at hsent
  have hends := hsent.receiveAll (Nat.lt_of_lt_of_le Nat.zero_lt_one (Nat.le_max_right _ _))
  rw [hopened, run_bind_ok hsend]
  generalize hrun : (receiveAll pace testMessages.length testMessages.length []).run s1 = ended
    at hends
  cases hends with
  | @well s' hroomy hheard =>
    have hsay : (compare testMessages).run s' = (.ok (), ((compare testMessages).run s').2) := by
      rw [compare, if_pos rfl]
      rfl
    rw [run_bind_ok hrun, hsay]
    refine .well hroomy ?_
    change (s'.lines ++ [Line.text _]).filterMap Line.heard? = testMessages
    rw [List.filterMap_append, hheard]
    rfl
  | badly hnot hk =>
    rw [run_bind_error hrun]
    exact .badly hnot hk

/-- The self test passes: it ends well, and tells of the messages that it sent, in order. -/
structure Report.Passes (r : Report) : Prop where
  ok : r.result = .ok ()
  heard : r.lines.filterMap Line.heard? = testMessages

/-- The self test passes if and only if there always is room, and otherwise tells after how many
messages no other one came. -/
theorem selfTestReport_cases (h : c.FitsBus) (pace : Nat → Nat) :
    Roomy pace testMessages.length (max c.input.queueCapacity 1) ∧ (selfTestReport pace c).Passes ∨
      ¬ Roomy pace testMessages.length (max c.input.queueCapacity 1) ∧
        ∃ k < testMessages.length,
          (selfTestReport pace c).result = .error (.timedOut k testMessages.length) := by
  have hends := testRoundTrip_ends h pace
  have hresult : (selfTestReport pace c).result = ((testRoundTrip pace c).run {}).1 := rfl
  have hlines : (selfTestReport pace c).lines = ((testRoundTrip pace c).run {}).2.lines := rfl
  generalize (testRoundTrip pace c).run {} = ended at hends hresult hlines
  cases hends with
  | well hroomy hheard => exact .inl ⟨hroomy, hresult, hlines ▸ hheard⟩
  | badly hnot hk => exact .inr ⟨hnot, _, hk, hresult⟩

/-- **When the self test passes.** At a pace at which there always is room for the messages that
wait it passes, and at any other pace it fails. It passes at every pace if and only if the queue has
room for all messages. The capacity of a queue is any number here, also one for which no memory can
be had: making such a queue would fail before the test begins. -/
theorem selfTest_passes_iff (h : c.FitsBus) :
    (∀ pace,
      let report := selfTestReport pace c
      (Roomy pace testMessages.length (max c.input.queueCapacity 1) → report.Passes) ∧
        (¬ Roomy pace testMessages.length (max c.input.queueCapacity 1) →
          ∃ k < testMessages.length,
            report.result = .error (.timedOut k testMessages.length))) ∧
      ((∀ pace, (selfTestReport pace c).Passes) ↔
        testMessages.length ≤ c.input.queueCapacity) := by
  refine ⟨fun pace => ⟨fun hroomy => ?_, fun hnot => ?_⟩, fun hall => ?_, fun hcapacity pace => ?_⟩
  · rcases selfTestReport_cases h pace with ⟨-, hpasses⟩ | ⟨hnot, -⟩
    · exact hpasses
    · exact absurd hroomy hnot
  · rcases selfTestReport_cases h pace with ⟨hroomy, -⟩ | ⟨-, hfails⟩
    · exact absurd hroomy hnot
    · exact hfails
  · -- a dispatcher that hurries fills the queue with all messages
    rcases selfTestReport_cases h fun _ => testMessages.length with ⟨hroomy, -⟩ | ⟨-, k, -, herror⟩
    · have hthree : testMessages.length = 3 := rfl
      have hcrowd := hroomy testMessages.length (by omega)
      rw [crowd_hasty] at hcrowd
      omega
    · rw [(hall _).ok] at herror
      cases herror
  · have hroomy : Roomy pace testMessages.length (max c.input.queueCapacity 1) := by
      intro n _
      exact (crowd_le pace _ n).trans (hcapacity.trans (Nat.le_max_left _ _))
    rcases selfTestReport_cases h pace with ⟨-, hpasses⟩ | ⟨hnot, -⟩
    · exact hpasses
    · exact absurd hroomy hnot

/-- With the usual settings the self test passes however much the dispatcher hurries, and with room
for one message if the dispatcher takes its time. -/
theorem selfTest_passes_usual :
    let tight : Config := { input := { queueCapacity := 1 } }
    ({} : Config).FitsBus ∧ tight.FitsBus ∧
      (selfTestReport (fun _ => testMessages.length) {}).Passes ∧
      (selfTestReport (fun _ => 0) tight).Passes := by
  intro tight
  have husual : ({} : Config).FitsBus := ⟨by decide +kernel, by decide +kernel⟩
  have htight : tight.FitsBus := ⟨by decide +kernel, by decide +kernel⟩
  have hroomy : Roomy (fun _ => 0) testMessages.length (max 1 1) := by decide
  refine ⟨husual, htight, ?_, ?_⟩
  · exact (selfTest_passes_iff husual).2.mpr (by decide) _
  · exact ((selfTest_passes_iff htight).1 _).1 hroomy

theorem Report.Passes.not_timedOut {report : Report} (h : report.Passes) (k count : Nat) :
    report.result ≠ .error (.timedOut k count) := by
  rw [h.ok]
  exact fun herror => by cases herror

/-- With room for one message, a dispatcher that handles one batch before each step of the client
loses the second message and the third one. -/
theorem selfTest_fails_hasty :
    let c : Config := { input := { queueCapacity := 1 } }
    c.FitsBus ∧ ¬ (selfTestReport (fun _ => 1) c).Passes := by
  intro c
  have hfits : c.FitsBus := ⟨by decide +kernel, by decide +kernel⟩
  refine ⟨hfits, fun hpasses => ?_⟩
  rcases selfTestReport_cases hfits (fun _ => 1) with ⟨hroomy, -⟩ | ⟨-, k, -, herror⟩
  · have hcrowded : ¬ Roomy (fun _ => 1) testMessages.length (max 1 1) := by decide
    exact hcrowded hroomy
  · exact hpasses.not_timedOut k _ herror

end Command

end PatchBay
