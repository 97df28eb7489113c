import Mathlib.Logic.Function.Basic
import PatchBay.Bus
import PatchBay.Proofs.Watching

/-!
# The handler of an endpoint

An endpoint keeps its handler until a client accepts it, and gets it back from a client that refuses
it. So as long as no client with the handler has been closed, the client that is open has accepted
it, and an endpoint without a client still has it. A shutdown closes the client and the handler is
gone with it: a client that is opened after that has none.
-/

namespace PatchBay

open CallLog

/-- The handlers that clients have accepted and not lost. -/
abbrev Fittings (η : Type) := ClientId → Option η

/-- What is accepted after a call. A client is opened and closed without a handler. -/
def Fittings.note {η : Type} (b : Fittings η) : Sight η → Fittings η
  | ⟨.openClient _, .client c, _⟩ => Function.update b c none
  | ⟨.closeClient c, _, _⟩ => Function.update b c none
  | ⟨.setHandler c, .done, handler⟩ => Function.update b c handler
  | _ => b

namespace Endpoint

variable {σ η : Type} {limit : Option Nat} {op : Operation} {e e' : Endpoint η}
  {b b' : Fittings η} {x : Option η}

/-- Where there is no client, `x` is what the endpoint has for the next one. Where there is one, it
is what that client has accepted, and the endpoint has nothing left. -/
def Fitted (x : Option η) (w : Endpoint η × Fittings η) : Prop :=
  match w.1.link.client? with
  | none => w.1.handler = x
  | some c => w.1.handler = none ∧ w.2 c = x

theorem fitted_closed (hclient : e.link.client? = none) :
    Fitted x (e, b) ↔ e.handler = x := by
  rw [Fitted, hclient]

theorem fitted_open {c : ClientId} (hclient : e.link.client? = some c) :
    Fitted x (e, b) ↔ e.handler = none ∧ b c = x := by
  rw [Fitted, hclient]

/-- A move changes neither the client nor what it has accepted, or opens a client that accepts what
the endpoint has, or closes the client in a shutdown. -/
theorem Move.fittings (h : Move limit Fittings.note op (e, b) (e', b')) :
    (e'.link.client? = e.link.client? ∧ e'.handler = e.handler ∧
        (e.link.client? = none ∨ b' = b)) ∨
      (∃ c, e.link.client? = none ∧ e'.link.client? = some c ∧ e'.handler = none ∧
        b' c = e.handler) ∨
      op = .shutdown ∧ ∃ c, e.link.client? = some c ∧ e'.link.client? = none ∧
        e'.handler = e.handler := by
  cases h with
  | unopened hlink err => exact .inl ⟨rfl, rfl, .inr rfl⟩
  | opened hlink hnone c =>
    refine .inr (.inl ⟨c, congrArg Link.client? hlink, rfl, rfl, ?_⟩)
    rw [hnone]
    exact Function.update_self c none b
  | refused hlink hsome c err =>
    exact .inl ⟨rfl, rfl, .inl (congrArg Link.client? hlink)⟩
  | equipped hlink hsome c =>
    refine .inr (.inl ⟨c, congrArg Link.client? hlink, rfl, rfl, ?_⟩)
    rw [hsome]
    exact Function.update_self c _ _
  | registered hlink => exact .inl ⟨(congrArg Link.client? hlink).symm, rfl, .inr rfl⟩
  | connected hlink => exact .inl ⟨(congrArg Link.client? hlink).symm, rfl, .inr rfl⟩
  | closed hlink =>
    refine .inl ⟨(congrArg Link.client? hlink).symm, rfl, .inr ?_⟩
    split <;> rfl
  | released hop hlink => exact .inr (.inr ⟨hop, _, congrArg Link.client? hlink, rfl, rfl⟩)
  | _ => exact .inl ⟨rfl, rfl, .inr rfl⟩

/-- One operation other than a shutdown. -/
theorem Fitted.perform (h : Fitted x (e, b)) (hop : op ≠ .shutdown) (d : Driver σ η) (s : σ) :
    Fitted x ((e.perform (d.watched Fittings.note) (s, b) op).1,
      (e.perform (d.watched Fittings.note) (s, b) op).2.2) := by
  refine (perform_moves d Fittings.note e (s, b) op).keeps ?_ h
  rintro ⟨e, b⟩ ⟨e', b'⟩ hmove hfitted
  rcases hmove.fittings with ⟨hclient, hhandler, hsame⟩ | ⟨c, hnone, hopen, hgone, haccepted⟩ |
    ⟨hshutdown, -⟩
  · cases hc : e.link.client? with
    | none =>
      rw [fitted_closed hc] at hfitted
      rw [fitted_closed (hclient.trans hc), hhandler]
      exact hfitted
    | some c =>
      rcases hsame with hnone | rfl
      · rw [hc] at hnone
        cases hnone
      rw [fitted_open hc] at hfitted
      rw [fitted_open (hclient.trans hc), hhandler]
      exact hfitted
  · rw [fitted_closed hnone] at hfitted
    rw [fitted_open hopen]
    exact ⟨hgone, haccepted.trans hfitted⟩
  · exact absurd hshutdown hop

theorem shutdown_link (d : Driver σ η) (e : Endpoint η) (s : σ) :
    (e.shutdown d s).1.link = .disconnected := by
  have hlink := closePort_link d e s
  unfold shutdown
  generalize e.closePort d s = closed at hlink
  obtain ⟨e', s'⟩ := closed
  dsimp only at hlink ⊢
  obtain hlink | ⟨c, hlink⟩ := hlink
  · rw [hlink]
    exact hlink
  · rw [hlink]
    rfl

theorem shutdown_handler (d : Driver σ η) (e : Endpoint η) (s : σ) :
    (e.shutdown d s).1.handler = e.handler := by
  have hclose : (e.closePort d s).1.handler = e.handler := by
    unfold closePort
    split <;> rfl
  unfold shutdown
  dsimp only
  split
  · exact hclose
  · exact hclose

/-- A shutdown takes the handler from an endpoint that has a client. -/
theorem Fitted.shutdown (h : Fitted x (e, b)) (d : Driver σ η) (s : σ) (b' : Fittings η) :
    Fitted (if e.link.client?.isSome then none else x) ((e.shutdown d s).1, b') := by
  have hclosed : (e.shutdown d s).1.link.client? = none :=
    congrArg Link.client? (shutdown_link d e s)
  rw [fitted_closed hclosed, shutdown_handler]
  cases hclient : e.link.client? with
  | none => exact (fitted_closed hclient).mp h
  | some c => exact ((fitted_open hclient).mp h).1

/-! ## Runs -/

/-- Some shutdown among the operations closed a client. -/
def ShutDown (d : Driver σ η) (e : Endpoint η) (s : σ) (ops : List Operation) : Prop :=
  ∃ before after, ops = before ++ .shutdown :: after ∧
    (e.performAll d s before).1.link.client?.isSome

theorem not_shutDown_nil (d : Driver σ η) (e : Endpoint η) (s : σ) : ¬ ShutDown d e s [] := by
  rintro ⟨before, after, hsplit, -⟩
  cases before <;> cases hsplit

theorem shutDown_concat {d : Driver σ η} {s : σ} {ops : List Operation} :
    ShutDown d e s (ops ++ [op]) ↔ ShutDown d e s ops ∨
      op = .shutdown ∧ (e.performAll d s ops).1.link.client?.isSome := by
  constructor
  · rintro ⟨before, after, hsplit, hclient⟩
    rcases List.eq_nil_or_concat after with rfl | ⟨more, last, rfl⟩
    · obtain ⟨rfl, hlast⟩ := List.append_inj' hsplit rfl
      cases hlast
      exact .inr ⟨rfl, hclient⟩
    · rw [List.concat_eq_append, ← List.cons_append, ← List.append_assoc] at hsplit
      obtain ⟨rfl, -⟩ := List.append_inj' hsplit rfl
      exact .inl ⟨before, more, rfl, hclient⟩
  · rintro (⟨before, after, rfl, hclient⟩ | ⟨rfl, hclient⟩)
    · exact ⟨before, after ++ [op], by simp, hclient⟩
    · exact ⟨ops, [], rfl, hclient⟩

/-- **The handler is lost in a shutdown, and nowhere else.** An endpoint is set up with a handler,
or without one, over a driver that answers each call as it likes, and carries out some operations.
As long as no shutdown has closed a client, the client that is open has accepted the handler, and
where there is none the endpoint has it for the next. Once a shutdown has closed a client, the
endpoint has no handler and no client that it opens has one. -/
theorem handler_fitted (d : Driver σ η) (direction : Direction) (clientName : String)
    (handler : Option η) (s : σ) (ops : List Operation) :
    let e : Endpoint η := { direction, clientName, handler }
    let run := e.performAll (d.watched Fittings.note) (s, fun _ => none) ops
    (run.1, run.2.1) = e.performAll d s ops ∧
      (¬ ShutDown d e s ops → Fitted handler (run.1, run.2.2)) ∧
      (ShutDown d e s ops → Fitted none (run.1, run.2.2)) := by
  intro e run
  refine ⟨performAll_unwatched d _ e _ ops, ?_⟩
  induction ops using List.reverseRecOn with
  | nil => exact ⟨fun _ => rfl, fun h => absurd h (not_shutDown_nil d e s)⟩
  | append_singleton ops op ih =>
    have hplain := performAll_unwatched d Fittings.note e (s, fun _ => none) ops
    dsimp only [run]
    rw [performAll_concat, shutDown_concat, ← hplain]
    generalize e.performAll (d.watched Fittings.note) (s, fun _ => none) ops = w at ih ⊢
    obtain ⟨e', s', b⟩ := w
    obtain ⟨hfirst, hlater⟩ := ih
    by_cases hop : op = .shutdown
    · subst hop
      have hshut := fun {x : Option η} (h : Fitted x (e', b)) =>
        h.shutdown (d.watched Fittings.note) (s', b)
          ((e'.shutdown (d.watched Fittings.note) (s', b)).2.2)
      refine ⟨fun hnot => ?_, fun hdown => ?_⟩
      · rw [not_or] at hnot
        have hfitted := hshut (hfirst hnot.1)
        rwa [if_neg fun hclient => hnot.2 ⟨rfl, hclient⟩] at hfitted
      · by_cases hbefore : ShutDown d e s ops
        · have hfitted := hshut (hlater hbefore)
          rwa [ite_self] at hfitted
        · have hclient := (hdown.resolve_left hbefore).2
          have hfitted := hshut (hfirst hbefore)
          rwa [if_pos hclient] at hfitted
    · refine ⟨fun hnot => (hfirst fun h => hnot (.inl h)).perform hop d s', fun hdown => ?_⟩
      rcases hdown with hdown | ⟨heq, -⟩
      · exact (hlater hdown).perform hop d s'
      · exact absurd heq hop

/-- An endpoint on a bus is opened, shut down and opened again. After the shutdown it has no handler
for the next client, and the client that it opens then has none. -/
theorem reopened_without_handler :
    let d : Driver (Bus Unit × Fittings Unit) Unit := (Bus.driver {}).watched Fittings.note
    let e : Endpoint Unit := { direction := .input, clientName := "keys", handler := some () }
    let first := e.performAll d ({}, fun _ => none) [.openVirtualPort "in"]
    let down := first.1.performAll d first.2 [.shutdown]
    let again := down.1.performAll d down.2 [.openVirtualPort "in"]
    (first.1.link = .portOpen ⟨1⟩ ⟨2⟩ none ∧ first.2.2 ⟨1⟩ = some ()) ∧
      (down.1.link = .disconnected ∧ down.1.handler = none) ∧
      again.1.link = .portOpen ⟨3⟩ ⟨4⟩ none ∧ again.2.2 ⟨3⟩ = none := by
  decide +kernel

end Endpoint

end PatchBay
