import PatchBay.Proofs.FreshStart
import PatchBay.Proofs.Watching

/-!
# Opening and closing once more

Opening a port where one is connected, and closing one where there is none, are answered from what
the endpoint knows of itself. The input moves its gate by itself, beside its endpoint, and there the
two differ: opening checks for the connection first, while closing shuts the gate before it asks for
the port. That does no harm, since without a port the gate is shut already.
-/

namespace PatchBay

namespace Endpoint

variable {σ η : Type} {d : Driver σ η} {e : Endpoint η} {s : σ} {name : String}

/-- Where there is a connection, the name is checked and nothing else is done. -/
theorem openPort_connected (hconnected : e.isConnected = true) (hname : e.Fits d.nameLimit name)
    (s : σ) (index : Nat) :
    e.openPort d s index name =
      { result := .ok (), subject := e, driver := s, warnings := [.alreadyConnected] } := by
  obtain ⟨client, port, peer, hlink⟩ := link_of_isConnected hconnected
  have hport : e.link.port? = some port := by
    rw [hlink]
    rfl
  have hregister : e.register d s name .connectable =
      { result := .ok port, subject := e, driver := s } := by
    rw [register_of_port hport, checkName_of_fits hname]
  have hconnect : e.connectPort d s index =
      { result := .ok (), subject := e, driver := s, warnings := [.alreadyConnected] } := by
    rw [connectPort, hlink]
  rw [openPort, hregister, Outcome.andThen]
  dsimp only
  rw [hconnect]
  rfl

theorem closePort_of_no_port (hport : e.link.port? = none) (s : σ) : e.closePort d s = (e, s) := by
  unfold closePort
  split
  · rename_i hlink
    rw [hlink] at hport
    cases hport
  · rfl

end Endpoint

namespace Input

variable {σ η : Type} {d : Driver σ η} {ours : η → Bool} {i : Input η} {s : σ} {name : String}
  {step : Step}

/-! ## What the client is told -/

/-- The answer to a step. -/
inductive Told where
  | result (result : Except PortError Unit) (warnings : List Warning)
  | peers (peers : List Peer)
  | message (message : Option Message)
  /-- The step has no answer. -/
  | nothing

/-- What the client is told by a step. -/
def told (d : Driver σ η) (i : Input η) (s : σ) : Step → Told
  | .openPort index name _ =>
    .result (i.openPort d s index name).result (i.openPort d s index name).warnings
  | .openVirtualPort name =>
    .result (i.openVirtualPort d s name).result (i.openVirtualPort d s name).warnings
  | .setPortName name => .result (i.setPortName d s name).result (i.setPortName d s name).warnings
  | .setClientName name =>
    .result (i.setClientName d s name).result (i.setClientName d s name).warnings
  | .listPorts => .peers (i.endpoint.ports d s).1
  | .next => .message i.next.1
  | .closePort | .shutdown | .batch .. => .nothing

/-- What the client is told by some steps in a row. -/
def tale (d : Driver σ η) (ours : η → Bool) (i : Input η) (s : σ) : List Step → List Told
  | [] => []
  | step :: steps =>
    let after := i.perform d ours s step
    i.told d s step :: tale d ours after.1 after.2 steps

/-! ## Steps that do nothing -/

/-- A step that the client is told of and that nothing else comes of. The driver is not called, and
in whatever comes after it the same arrives, the client is told the same, and the input and the
driver end up the same as without it. -/
structure Idle (d : Driver σ η) (ours : η → Bool) (i : Input η) (s : σ) (step : Step)
    (answer : Told) : Prop where
  answered : i.told d s step = answer
  uncalled : (i.perform d ours s step).2 = s
  run_eq : ∀ steps, i.run d ours s (step :: steps) = i.run d ours s steps
  tale_eq : ∀ steps, i.tale d ours s (step :: steps) = answer :: i.tale d ours s steps

/-- It is enough that the step changes neither side and lets nothing arrive. -/
theorem Idle.of_perform {answer : Told} (htold : i.told d s step = answer)
    (hperform : i.performUpTo d ours s 0 step = (i, s)) (hbatches : i.batches d ours s step = []) :
    Idle d ours i s step answer := by
  have hstep : i.perform d ours s step = (i, s) := by
    rw [perform_eq, hbatches, hperform]
    rfl
  refine ⟨htold, by rw [hstep], fun steps => ?_, fun steps => ?_⟩
  · rw [run, arriving, hbatches, hstep]
    rfl
  · rw [tale, hstep, htold]

theorem openPort_idle (hconnected : i.endpoint.isConnected = true)
    (hname : i.endpoint.Fits d.nameLimit name) (ours : η → Bool) (s : σ) (index : Nat)
    (clock : Nat → Time) :
    Idle d ours i s (.openPort index name clock) (.result (.ok ()) [.alreadyConnected]) := by
  have hopen : i.openPort d s index name =
      { result := .ok (), subject := i, driver := s, warnings := [.alreadyConnected] } := by
    rw [openPort, if_pos hconnected, Endpoint.openPort_connected hconnected hname]
    rfl
  refine .of_perform ?_ ?_ ?_
  · rw [told, hopen]
  · change ((i.openPort d s index name).subject, (i.openPort d s index name).driver) = (i, s)
    rw [hopen]
  · rw [batches, hopen]
    rfl

/-- The gate of an input without a port is shut already. -/
theorem closePort_idle (hguarded : i.Guarded) (hport : i.endpoint.link.port? = none)
    (ours : η → Bool) (s : σ) : Idle d ours i s .closePort .nothing := by
  have hshut : i.deactivate = i := by
    have hgate : i.gate.active = none := hguarded.trans hport
    rw [deactivate, Gate.deactivate, ← hgate]
  have hclose : i.closePort d s = (i, s) := by
    rw [closePort, hshut, Endpoint.closePort_of_no_port hport]
    rfl
  exact .of_perform rfl hclose rfl

/-- **Opening and closing once more does nothing.** Whatever an input was told to do and whatever
arrived, with any driver: where its endpoint is connected, opening a port succeeds if the name is
within the limit, for any index; where its endpoint has no port, closing it comes to an end. Neither
calls the driver, and both leave no trace in what comes after, also in the middle of a SysEx. -/
theorem repeated_idle (d : Driver σ η) (ours : η → Bool) (settings : Settings) (mode : Mode)
    (handler : η) (s : σ) (history : List Step) :
    let now := ((ofSettings settings mode handler).run d.logged ours (s, []) history).2
    (∀ index name clock, now.1.endpoint.isConnected = true →
        now.1.endpoint.Fits d.nameLimit name →
        Idle d.logged ours now.1 now.2 (.openPort index name clock)
          (.result (.ok ()) [.alreadyConnected])) ∧
      (now.1.endpoint.link.port? = none → Idle d.logged ours now.1 now.2 .closePort .nothing) := by
  intro now
  have hguarded : now.1.Guarded :=
    (ofSettings_guarded settings mode handler).run_after d.logged ours (s, []) history
  refine ⟨fun index name clock hconnected hname => ?_, fun hport => ?_⟩
  · exact openPort_idle (d := d.logged) hconnected hname ours now.2 index clock
  · exact closePort_idle hguarded hport ours now.2

/-- An input is opened, opened again in the middle of a SysEx, closed in the middle of the next one,
and closed again. -/
theorem repeated_idle_sysex :
    let d : Driver Unit Unit :=
      { backend := .loopback
        nameLimit := some 32
        openClient := fun s _ => (.ok ⟨1⟩, s)
        closeClient := fun s _ => s
        setHandler := fun s _ _ => (.ok (), s)
        registerPort := fun s _ _ _ _ => (.ok ⟨7⟩, s)
        unregisterPort := fun s _ _ => s
        enumerate := fun s _ => ([⟨"keys", ⟨"1"⟩⟩], s)
        connect := fun s _ _ _ => (.ok (), [], s)
        disconnect := fun s _ _ => s
        transmit := fun s _ _ bytes encoder => (.ok bytes.length, encoder, s)
        drain := fun s _ => (.ok (), s) }
    let ours : Unit → Bool := fun _ => true
    let start := ofSettings { filter := .passAll } .queue ()
    let opened : List Step := [.openPort 0 "in" fun _ => {}, .batch ⟨7⟩ [⟨{}, [0xF0, 0x01]⟩]]
    let again : Step := .openPort 5 "out" fun _ => {}
    let later : List Step := [.batch ⟨7⟩ [⟨{}, [0x02, 0xF7]⟩, ⟨{}, [0xF0, 0x03]⟩], .closePort]
    let now := (start.run d.logged ours ((), []) opened).2
    let shut := (start.run d.logged ours ((), []) (opened ++ again :: later)).2
    now.1.assembler.continuing = true ∧
      Idle d.logged ours now.1 now.2 again (.result (.ok ()) [.alreadyConnected]) ∧
      ((now.1.run d.logged ours now.2 (again :: later)).1.flatMap Arrival.handed).map (·.bytes) =
        [[0xF0, 0x01, 0x02, 0xF7]] ∧
      shut.1.assembler.continuing = true ∧
      Idle d.logged ours shut.1 shut.2 .closePort .nothing := by
  intro d ours start opened again later now shut
  have hname : now.1.endpoint.Fits d.nameLimit "out" := by
    intro limit hlimit
    cases hlimit
    decide +kernel
  have hopen := (repeated_idle d ours { filter := .passAll } .queue () () opened).1 5 "out"
    (fun _ => {}) (by decide +kernel) hname
  have hclose := (repeated_idle d ours { filter := .passAll } .queue () ()
    (opened ++ again :: later)).2 (by decide +kernel)
  refine ⟨by decide +kernel, hopen, ?_, by decide +kernel, hclose⟩
  rw [hopen.run_eq]
  decide +kernel

end Input

end PatchBay
