import PatchBay.Driver.Scripted
import PatchBay.Proofs.Watching

/-!
# Names and their limit

A port is registered or renamed only under a name that is within the driver's limit together with
the name of the client. A renaming of the client is not checked: where a port is registered, the
client gets any name that the driver accepts. So the limit is kept throughout a run exactly if each
of these renamings keeps it.
-/

namespace PatchBay

open CallLog

/-- The name of the registered port after a call: the one that it was registered with, or that it
was last renamed to. -/
def PortName.note {η : Type} : Option String → Sight η → Option String
  | _, ⟨.registerPort _ name _ _, .port _, _⟩ => some name
  | _, ⟨.renamePort _ _ name, .done, _⟩ => some name
  | _, ⟨.unregisterPort _ _, _, _⟩ => none
  | known, _ => known

namespace Endpoint

variable {σ η : Type} {limit : Option Nat} {op : Operation} {e e' : Endpoint η}
  {known known' : Option String}

/-- The name of the port, if there is one, is within the limit. -/
def Limited (limit : Option Nat) (w : Endpoint η × Option String) : Prop :=
  ∀ name ∈ w.2, w.1.Fits limit name

theorem Fits.congr {name : String} (h : e.Fits limit name) (hsame : e'.clientName = e.clientName) :
    e'.Fits limit name := by
  unfold Fits
  rw [hsame]
  exact h

/-- A move renames the client only if it is told to. It leaves the port and its name, or gives the
port a name within the limit, or takes the port away. -/
theorem Move.portName (h : Move limit PortName.note op (e, known) (e', known')) :
    (e'.clientName = e.clientName ∨ ∃ name, op = .setClientName name) ∧
      ((known' = known ∧ e'.link.port?.isSome = e.link.port?.isSome) ∨
        (∃ name, known' = some name ∧ e'.link.port?.isSome ∧ e.Fits limit name) ∨
        known' = none ∧ e'.link.port? = none) := by
  cases h with
  | opened hlink hnone c => exact ⟨.inl rfl, .inl ⟨rfl, by rw [hlink]; rfl⟩⟩
  | equipped hlink hsome c => exact ⟨.inl rfl, .inl ⟨rfl, by rw [hlink]; rfl⟩⟩
  | registered hlink hname kind p => exact ⟨.inl rfl, .inr (.inl ⟨_, rfl, rfl, hname⟩)⟩
  | connected hlink peer => exact ⟨.inl rfl, .inl ⟨rfl, by rw [hlink]; rfl⟩⟩
  | closed hlink => exact ⟨.inl rfl, .inr (.inr ⟨rfl, rfl⟩)⟩
  | released hop hlink => exact ⟨.inl rfl, .inl ⟨rfl, by rw [hlink]; rfl⟩⟩
  | renamedPort hlink hname =>
    exact ⟨.inl rfl, .inr (.inl ⟨_, rfl, by rw [hlink]; rfl, hname⟩)⟩
  | renamedClient hop hclient => exact ⟨.inr ⟨_, hop⟩, .inl ⟨rfl, rfl⟩⟩
  | named hop hclient => exact ⟨.inr ⟨_, hop⟩, .inl ⟨rfl, rfl⟩⟩
  | _ => exact ⟨.inl rfl, .inl ⟨rfl, rfl⟩⟩

/-- The name of the port is known exactly if there is a port. -/
theorem perform_known (h : known.isSome = e.link.port?.isSome) (d : Driver σ η) (s : σ)
    (op : Operation) :
    (e.perform (d.watched PortName.note) (s, known) op).2.2.isSome =
      (e.perform (d.watched PortName.note) (s, known) op).1.link.port?.isSome := by
  refine (perform_moves d PortName.note e (s, known) op).keeps
    (P := fun w => w.2.isSome = w.1.link.port?.isSome) ?_ h
  rintro ⟨e, known⟩ ⟨e', known'⟩ hmove hknown
  dsimp only at hknown ⊢
  rcases hmove.portName.2 with ⟨rfl, hport⟩ | ⟨name, rfl, hport, -⟩ | ⟨rfl, hport⟩
  · exact hknown.trans hport.symm
  · exact hport.symm
  · rw [hport]
    rfl

/-- One operation other than renaming the client. -/
theorem Limited.perform {d : Driver σ η} (h : Limited d.nameLimit (e, known))
    (hop : ∀ name, op ≠ .setClientName name) (s : σ) :
    Limited d.nameLimit ((e.perform (d.watched PortName.note) (s, known) op).1,
      (e.perform (d.watched PortName.note) (s, known) op).2.2) := by
  refine (perform_moves d PortName.note e (s, known) op).keeps ?_ h
  rintro ⟨e, known⟩ ⟨e', known'⟩ hmove hlimited
  obtain ⟨hclient, hport⟩ := hmove.portName
  have hsame : e'.clientName = e.clientName :=
    hclient.resolve_right fun ⟨name, hname⟩ => hop name hname
  rcases hport with ⟨rfl, -⟩ | ⟨name, rfl, -, hname⟩ | ⟨rfl, -⟩
  · exact fun name hname => (hlimited name hname).congr hsame
  · intro other hother
    cases hother
    exact hname.congr hsame
  · exact nofun

/-- Renaming the client leaves the port and its name. It succeeds, and the client has the new name,
or fails and changes nothing. -/
theorem setClientName_result (d : Driver σ η) (e : Endpoint η) (s : σ × Option String)
    (name : String) :
    let o := e.setClientName (d.watched PortName.note) s name
    o.driver.2 = s.2 ∧ (o.result = .ok () ∧ o.subject = { e with clientName := name } ∨
      o.result ≠ .ok () ∧ o.subject = e) := by
  intro o
  unfold o setClientName
  cases hclient : e.link.client? with
  | none => exact ⟨rfl, .inl ⟨rfl, rfl⟩⟩
  | some client =>
    simp only [Driver.watched]
    cases hrename : d.renameClient s.1 client name with
    | mk result after =>
      cases result with
      | error err =>
        refine ⟨rfl, .inr ⟨fun hok => ?_, rfl⟩⟩
        cases hok
      | ok u => exact ⟨rfl, .inl ⟨rfl, rfl⟩⟩

/-! ## Runs -/

/-- An endpoint and the name of its port after some operations. -/
def named (d : Driver σ η) (e : Endpoint η) (s : σ) (ops : List Operation) :
    Endpoint η × σ × Option String :=
  e.performAll (d.watched PortName.note) (s, none) ops

/-- After each renaming of the client that succeeds, the name of the port is within the limit. -/
def RenamesWithin (d : Driver σ η) (e : Endpoint η) (s : σ) (ops : List Operation) : Prop :=
  ∀ before name later, ops = before ++ .setClientName name :: later →
    let w := e.named d s before
    (w.1.setClientName (d.watched PortName.note) w.2 name).result = .ok () →
      Limited d.nameLimit ({ w.1 with clientName := name }, w.2.2)

theorem RenamesWithin.take {d : Driver σ η} {s : σ} {first later : List Operation}
    (h : RenamesWithin d e s (first ++ later)) : RenamesWithin d e s first := by
  rintro before name more rfl
  exact h before name (more ++ later) (by simp)

theorem named_concat (d : Driver σ η) (e : Endpoint η) (s : σ) (ops : List Operation)
    (op : Operation) :
    e.named d s (ops ++ [op]) =
      (e.named d s ops).1.perform (d.watched PortName.note) (e.named d s ops).2 op :=
  performAll_concat _ e _ ops op

theorem named_known (d : Driver σ η) (s : σ) (ops : List Operation) (h : e.link = .disconnected) :
    (e.named d s ops).2.2.isSome = (e.named d s ops).1.link.port?.isSome := by
  induction ops using List.reverseRecOn with
  | nil =>
    rw [named, performAll, List.foldl_nil, h]
    rfl
  | append_singleton ops op ih =>
    rw [named_concat]
    exact perform_known ih d _ op

theorem named_limited {d : Driver σ η} {s : σ} {ops : List Operation}
    (h : RenamesWithin d e s ops) :
    Limited d.nameLimit ((e.named d s ops).1, (e.named d s ops).2.2) := by
  induction ops using List.reverseRecOn with
  | nil => exact nofun
  | append_singleton ops op ih =>
    have hlimited := ih h.take
    have hlast := fun name => h ops name []
    rw [named_concat]
    generalize e.named d s ops = w at hlimited hlast ⊢
    obtain ⟨e', s', known⟩ := w
    cases op with
    | setClientName name =>
      obtain ⟨hknown, hresult⟩ := setClientName_result d e' (s', known) name
      simp only [Endpoint.perform, Outcome.final]
      rw [hknown]
      rcases hresult with ⟨hok, hrenamed⟩ | ⟨-, hsame⟩
      · rw [hrenamed]
        exact hlast name rfl hok
      · rw [hsame]
        exact hlimited
    | _ => exact hlimited.perform (by rintro _ ⟨⟩) s'

/-- **The limit of names is kept by all but renamings of the client.** A new endpoint, over a driver
that answers each call as it likes, carries out some operations. The name of the port is known
exactly if there is a port. At all times of the run it is within the driver's limit, together with
the name of the client, exactly if it is after each renaming of the client that succeeds. -/
theorem limit_kept_iff (d : Driver σ η) (direction : Direction) (clientName : String)
    (handler : Option η) (s : σ) (ops : List Operation) :
    let e : Endpoint η := { direction, clientName, handler }
    let after := e.named d s
    ((after ops).1, (after ops).2.1) = e.performAll d s ops ∧
      (after ops).2.2.isSome = (after ops).1.link.port?.isSome ∧
      ((∀ before later, ops = before ++ later →
          Limited d.nameLimit ((after before).1, (after before).2.2)) ↔
        RenamesWithin d e s ops) := by
  intro e after
  refine ⟨performAll_unwatched d _ e _ ops, named_known d s ops rfl, ?_, ?_⟩
  · intro hkept before name later hsplit w hok
    have hnext := hkept (before ++ [.setClientName name]) later (by simp [hsplit])
    obtain ⟨hknown, hresult⟩ := setClientName_result d w.1 w.2 name
    obtain ⟨-, hrenamed⟩ := hresult.resolve_right fun hfailed => hfailed.1 hok
    have hafter : after (before ++ [.setClientName name]) =
        (w.1.setClientName (d.watched PortName.note) w.2 name).final :=
      named_concat d e s before _
    rw [hafter, Outcome.final, hrenamed, hknown] at hnext
    exact hnext
  · rintro hrenames before later rfl
    exact named_limited hrenames.take

/-- A client is renamed while it has a port, and the two names are then beyond the limit. -/
theorem renamed_beyond_limit :
    let d : Driver (Scripted Unit × Option String) Unit :=
      (Scripted.driver .loopback (some 16)).watched PortName.note
    let e : Endpoint Unit := { direction := .input, clientName := "keys" }
    let run := e.performAll d ({ script := [(.renameClient, [.succeed])] }, none)
      [.openVirtualPort "in", .setClientName "upper keyboard"]
    run.1.link = .portOpen ⟨1⟩ ⟨1⟩ none ∧ run.2.2 = some "in" ∧
      16 < run.1.clientName.utf8ByteSize + 1 + "in".utf8ByteSize := by
  decide +kernel

end Endpoint

end PatchBay
