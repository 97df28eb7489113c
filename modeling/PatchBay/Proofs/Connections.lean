import PatchBay.Bench
import PatchBay.Proofs.Removal
import PatchBay.Proofs.Standing

/-!
# A connected endpoint is subscribed

Any number of inputs and outputs on one bus open and close their ports and are dropped, while
hardware comes and goes and events are on their way. Each endpoint remembers a peer, and the bus
keeps the subscriptions. The two agree at all times: between an endpoint that is connected and its
peer there is a subscription, as long as the peer is there.
-/

namespace PatchBay

namespace Bench

variable {settings : Bus.Settings} {b after : Bench (Bus Listener)} {name other : String}
  {item : Item} {e e' : Endpoint Listener} {client : ClientId}

/-! ## The items of a bench -/

/-- The endpoint of the item of a name. -/
def endpoint? {σ : Type} (b : Bench σ) (name : String) : Option (Endpoint Listener) :=
  (b.item? name).bind Item.endpoint?

theorem lookup_replace (l : List (String × Item)) (name : String) (item : Item)
    (other : String) : (l.map fun (n, i) => if n = name then (n, item) else (n, i)).lookup other =
      if other = name then (l.lookup name).map fun _ => item else l.lookup other := by
  induction l with
  | nil => simp
  | cons x l ih =>
    obtain ⟨n, i⟩ := x
    have hhead : (if n = name then (n, item) else (n, i)) =
        (n, if n = name then item else i) := by
      split
      · rfl
      · rfl
    rw [List.map_cons]
    dsimp only
    rw [hhead, List.lookup_cons, List.lookup_cons, List.lookup_cons, ih]
    by_cases hn : other = n
    · subst hn
      by_cases hother : other = name
      · simp [hother]
      · simp [hother]
    · rw [beq_false_of_ne hn]
      by_cases hother : other = name
      · subst hother
        simp [beq_false_of_ne hn]
      · simp [hother]

theorem item?_putItem {σ : Type} (b : Bench σ) (name : String) (item : Item) (other : String) :
    (b.putItem name item).item? other = if other = name then some item else b.item? other := by
  unfold putItem
  split
  · rename_i hthere
    obtain ⟨found, hfound⟩ := Option.isSome_iff_exists.mp hthere
    have hlook : b.items.lookup name = some found := hfound
    show List.lookup other (b.items.map _) = _
    rw [lookup_replace, hlook, Option.map_some]
    rfl
  · rename_i hnew
    have hlook : b.items.lookup name = none := Option.not_isSome_iff_eq_none.mp hnew
    show List.lookup other (b.items ++ [(name, item)]) = _
    rw [List.lookup_append, List.lookup_cons]
    by_cases hother : other = name
    · simp [hother, hlook]
    · simp [hother, beq_false_of_ne hother, item?]

theorem endpoint?_putItem {σ : Type} (b : Bench σ) (name : String) (item : Item)
    (other : String) : (b.putItem name item).endpoint? other =
      if other = name then item.endpoint? else b.endpoint? other := by
  rw [endpoint?, item?_putItem]
  split
  · rfl
  · rfl

theorem putItem_driver {σ : Type} (b : Bench σ) (name : String) (item : Item) :
    (b.putItem name item).driver = b.driver := by
  unfold putItem
  split
  · rfl
  · rfl

/-- A listener that is called with a batch keeps its endpoint. -/
theorem route_endpoint? {σ : Type} (b : Bench σ) (delivery : Delivery Listener) :
    (b.route delivery).driver = b.driver ∧
      ∀ name, (b.route delivery).endpoint? name = b.endpoint? name := by
  unfold route
  split
  · exact ⟨rfl, fun _ => rfl⟩
  · split
    · rename_i listener i hitem
      refine ⟨putItem_driver _ _ _, fun name => ?_⟩
      rw [endpoint?_putItem]
      split
      · rename_i hname
        rw [hname, endpoint?, hitem]
        rfl
      · rfl
    · exact ⟨rfl, fun _ => rfl⟩
  · exact ⟨rfl, fun _ => rfl⟩

theorem routeAll_endpoint? {σ : Type} (b : Bench σ) (deliveries : List (Delivery Listener)) :
    (b.routeAll deliveries).driver = b.driver ∧
      ∀ name, (b.routeAll deliveries).endpoint? name = b.endpoint? name := by
  induction deliveries generalizing b with
  | nil => exact ⟨rfl, fun _ => rfl⟩
  | cons delivery deliveries ih =>
    obtain ⟨hdriver, hsame⟩ := b.route_endpoint? delivery
    obtain ⟨hdriver', hsame'⟩ := ih (b.route delivery)
    exact ⟨hdriver'.trans hdriver, fun name => (hsame' name).trans (hsame name)⟩

theorem perform_endpoint? {σ α : Type} (b : Bench σ) (name : String) (item : Item)
    (operation : Item → σ → Outcome Item σ Listener α) :
    (b.perform name item operation).2.driver = (operation item b.driver).driver ∧
      ∀ other, (b.perform name item operation).2.endpoint? other =
        if other = name then (operation item b.driver).subject.endpoint?
        else b.endpoint? other := by
  unfold perform
  dsimp only
  generalize operation item b.driver = o
  obtain ⟨hdriver, hsame⟩ := routeAll_endpoint?
    (putItem { b with driver := o.driver, warnings := b.warnings ++ o.warnings } name o.subject)
    o.delivered
  refine ⟨by rw [hdriver, putItem_driver], fun other => ?_⟩
  rw [hsame, endpoint?_putItem]
  rfl

theorem change_endpoint? {σ : Type} (b : Bench σ) (name : String) (item : Item)
    (operation : Item → σ → Item × σ) :
    (b.change name item operation).driver = (operation item b.driver).2 ∧
      ∀ other, (b.change name item operation).endpoint? other =
        if other = name then (operation item b.driver).1.endpoint? else b.endpoint? other := by
  refine ⟨putItem_driver _ _ _, fun other => ?_⟩
  rw [change, endpoint?_putItem]
  rfl

theorem drop_none {σ : Type} (d : Driver σ Listener) {b : Bench σ} (h : b.item? name = none) :
    (b.drop d name).2 = b := by
  rw [drop, h]

theorem drop_endpoint? {σ : Type} (d : Driver σ Listener) {b : Bench σ}
    (h : b.item? name = some item) : (b.drop d name).2.driver = (item.shutdown d b.driver).2 ∧
      ∀ other, (b.drop d name).2.endpoint? other =
        if other = name then none else b.endpoint? other := by
  rw [drop, h]
  refine ⟨rfl, fun other => ?_⟩
  have hgone := Bus.lookup_filter_ne b.items name other
  simp only [endpoint?, item?]
  rw [hgone]
  split
  · rfl
  · rfl

/-! ## Operations on an item -/

namespace Item

variable {σ : Type}

/-- An operation on an item is one on its endpoint. An item that has none stays as it is. -/
def Performs (d : Driver σ Listener) (op : Endpoint.Operation) (item : Item) (s : σ)
    (after : Item × σ) : Prop :=
  (item.endpoint? = none ∧ after.1.endpoint? = none ∧ after.2 = s) ∨
    ∃ e, item.endpoint? = some e ∧ after.1.endpoint? = some (e.perform d s op).1 ∧
      after.2 = (e.perform d s op).2

theorem openPort_performs (d : Driver σ Listener) (index : Nat) (name : String) (item : Item)
    (s : σ) : item.Performs d (.openPort index name) s (item.openPort d index name s).final := by
  cases item with
  | endpoint e => exact .inr ⟨e, rfl, rfl, rfl⟩
  | input i =>
    rw [openPort, Input.openPort_eq d i s index name _ rfl]
    exact .inr ⟨i.endpoint, rfl, rfl, rfl⟩
  | output o => exact .inr ⟨o.endpoint, rfl, rfl, rfl⟩
  | encoder _ => exact .inl ⟨rfl, rfl, rfl⟩

theorem openVirtualPort_performs (d : Driver σ Listener) (name : String) (item : Item) (s : σ) :
    item.Performs d (.openVirtualPort name) s (item.openVirtualPort d name s).final := by
  cases item with
  | endpoint e => exact .inr ⟨e, rfl, rfl, rfl⟩
  | input i =>
    have hsame : (i.openVirtualPort d s name).subject.endpoint =
        (i.endpoint.openVirtualPort d s name).subject := by
      unfold Input.openVirtualPort Endpoint.openVirtualPort Outcome.within Outcome.andThen
      dsimp only
      cases (i.endpoint.register d s name .virtual).result <;> rfl
    exact .inr ⟨i.endpoint, rfl, congrArg some hsame, (Input.openVirtualPort_eq d i s name).2⟩
  | output o => exact .inr ⟨o.endpoint, rfl, rfl, rfl⟩
  | encoder _ => exact .inl ⟨rfl, rfl, rfl⟩

theorem setPortName_performs (d : Driver σ Listener) (name : String) (item : Item) (s : σ) :
    item.Performs d (.setPortName name) s (item.setPortName d name s).final := by
  cases item with
  | endpoint e => exact .inr ⟨e, rfl, rfl, rfl⟩
  | input i => exact .inr ⟨i.endpoint, rfl, rfl, rfl⟩
  | output o => exact .inr ⟨o.endpoint, rfl, rfl, rfl⟩
  | encoder _ => exact .inl ⟨rfl, rfl, rfl⟩

theorem setClientName_performs (d : Driver σ Listener) (name : String) (item : Item) (s : σ) :
    item.Performs d (.setClientName name) s (item.setClientName d name s).final := by
  cases item with
  | endpoint e => exact .inr ⟨e, rfl, rfl, rfl⟩
  | input i => exact .inr ⟨i.endpoint, rfl, rfl, rfl⟩
  | output o => exact .inr ⟨o.endpoint, rfl, rfl, rfl⟩
  | encoder _ => exact .inl ⟨rfl, rfl, rfl⟩

theorem closePort_performs (d : Driver σ Listener) (item : Item) (s : σ) :
    item.Performs d .closePort s (item.closePort d s) := by
  cases item with
  | endpoint e => exact .inr ⟨e, rfl, rfl, rfl⟩
  | input i => exact .inr ⟨i.endpoint, rfl, rfl, rfl⟩
  | output o => exact .inr ⟨o.endpoint, rfl, rfl, rfl⟩
  | encoder _ => exact .inl ⟨rfl, rfl, rfl⟩

theorem shutdown_performs (d : Driver σ Listener) (item : Item) (s : σ) :
    item.Performs d .shutdown s (item.shutdown d s) := by
  cases item with
  | endpoint e => exact .inr ⟨e, rfl, rfl, rfl⟩
  | input i => exact .inr ⟨i.endpoint, rfl, rfl, rfl⟩
  | output o => exact .inr ⟨o.endpoint, rfl, rfl, rfl⟩
  | encoder _ => exact .inl ⟨rfl, rfl, rfl⟩

end Item

/-! ## What may happen on a bench -/

/-- Something that happens on a bench of inputs and outputs on a bus. -/
inductive Step where
  | newInput (name : String) (settings : Input.Settings) (mode : Input.Mode)
  | newOutput (name : String) (settings : Output.Settings)
  | drop (name : String)
  | openPort (name : String) (index : Nat) (port : String)
  | openVirtualPort (name : String) (port : String)
  | closePort (name : String)
  | setPortName (name : String) (port : String)
  | setClientName (name : String) (client : String)
  | send (name : String) (bytes : Bytes)
  | addSource (port : String)
  | addDestination (port : String)
  | removeSystemPort (port : Address)
  | inject (source : Address) (events : List Bytes)
  | setAvailable (available : Bool)
  /-- The dispatcher takes a batch from its queue. -/
  | dispatch
deriving Repr

/-- Does something with the item of a name, if there is one. -/
def withItem (b : Bench (Bus Listener)) (name : String)
    (f : Item → Bench (Bus Listener)) : Bench (Bus Listener) :=
  match b.item? name with
  | none => b
  | some item => f item

/-- The bench after a step. -/
def step (settings : Bus.Settings) (b : Bench (Bus Listener)) : Step → Bench (Bus Listener)
  | .newInput name s mode =>
    b.place (Bus.driver settings) name (.input (.ofSettings s mode (.input name)))
  | .newOutput name s => b.place (Bus.driver settings) name (.output (.ofSettings s))
  | .drop name => (b.drop (Bus.driver settings) name).2
  | .openPort name index port => b.withItem name fun item =>
    (b.perform name item (Item.openPort (Bus.driver settings) index port)).2
  | .openVirtualPort name port => b.withItem name fun item =>
    (b.perform name item (Item.openVirtualPort (Bus.driver settings) port)).2
  | .closePort name => b.withItem name fun item =>
    b.change name item (Item.closePort (Bus.driver settings))
  | .setPortName name port => b.withItem name fun item =>
    (b.perform name item (Item.setPortName (Bus.driver settings) port)).2
  | .setClientName name client => b.withItem name fun item =>
    (b.perform name item (Item.setClientName (Bus.driver settings) client)).2
  | .send name bytes => b.withItem name fun
    | .output o =>
      let (_, o, bus) := o.send (Bus.driver settings) b.driver bytes
      { b with driver := bus }.putItem name (.output o)
    | _ => b
  | .addSource port => (b.call (Bus.addSource · port)).2
  | .addDestination port => (b.call (Bus.addDestination · port)).2
  | .removeSystemPort port => { b with driver := b.driver.removeSystemPort port }
  | .inject source events => (b.call (Bus.inject · source events)).2
  | .setAvailable available => { b with driver := b.driver.setAvailable available }
  | .dispatch =>
    let (delivery, bus) := b.driver.dispatch
    { b with driver := bus }.routeAll delivery.toList

/-- The benches that steps lead to. A step for which there is no handle left does not return. -/
inductive Reached (settings : Bus.Settings) : Bench (Bus Listener) → Prop where
  /-- An empty bench with a new bus. -/
  | new : Reached settings { driver := {} }
  /-- The bench after a step. -/
  | step {b : Bench (Bus Listener)} (h : Reached settings b) (step : Step)
      (hroom : b.driver.nextId ≤ (b.step settings step).driver.nextId) :
      Reached settings (b.step settings step)

/-! ## Benches in order -/

/-- The link of each endpoint stands on the bus, and no two endpoints share a client. -/
structure Orderly (b : Bench (Bus Listener)) : Prop where
  consistent : b.driver.Consistent
  stands : ∀ name e, b.endpoint? name = some e → b.driver.Stands e.direction e.link
  apart : ∀ name e other e' client, b.endpoint? name = some e → b.endpoint? other = some e' →
    e.link.client? = some client → e'.link.client? = some client → name = other

theorem orderly_new : Orderly { driver := {} } := by
  refine ⟨Bus.consistent_empty, fun name e he => ?_, fun name e _ _ _ he => ?_⟩
  · cases he
  · cases he

/-- Nobody else has the client that an endpoint acts as. -/
theorem Orderly.alone (h : b.Orderly) (hname : b.endpoint? name = some e) (hne : other ≠ name)
    (hother : b.endpoint? other = some e') (hclient : e'.link.client? = some client) :
    client ≠ e.seat b.driver := by
  intro heq
  cases hown : e.link.client? with
  | some own =>
    rw [Endpoint.seat_eq hown] at heq
    exact hne (h.apart other e' name e own hother hname (heq ▸ hclient) hown)
  | none =>
    rw [Endpoint.seat, hown, Option.getD_none] at heq
    have hopen := ((h.stands other e' hother).seats hclient).2
    rw [heq, h.consistent.no_next] at hopen
    cases hopen

/-- An endpoint does something, and the others do nothing. -/
theorem Orderly.acts (h : b.Orderly) (name : String) (actor : ClientId)
    (hupholds : b.driver.Upholds actor after.driver)
    (halone : ∀ other e' client, other ≠ name → b.endpoint? other = some e' →
      e'.link.client? = some client → client ≠ actor)
    (hself : ∀ e', after.endpoint? name = some e' →
      after.driver.Stands e'.direction e'.link ∧ ∀ c, e'.link.client? = some c → c = actor)
    (hothers : ∀ other, other ≠ name → after.endpoint? other = b.endpoint? other) :
    after.Orderly := by
  refine ⟨hupholds.consistent, fun x ex hx => ?_, fun x ex y ey c hx hy hcx hcy => ?_⟩
  -- the one that acts has the actor's client or none, and nobody else has that client
  · by_cases hname : x = name
    · subst hname
      exact (hself ex hx).1
    · rw [hothers x hname] at hx
      exact (h.stands x ex hx).upholds hupholds fun c hc => halone x ex c hname hx hc
  · by_cases hnx : x = name
    · by_cases hny : y = name
      · rw [hnx, hny]
      · subst hnx
        rw [hothers y hny] at hy
        exact absurd ((hself ex hx).2 c hcx) (halone y ey c hny hy hcy)
    · by_cases hny : y = name
      · subst hny
        rw [hothers x hnx] at hx
        exact absurd ((hself ey hy).2 c hcy) (halone x ex c hnx hx hcx)
      · rw [hothers x hnx] at hx
        rw [hothers y hny] at hy
        exact h.apart x ex y ey c hx hy hcx hcy

/-- Something happened that leaves the endpoints as they are, and that the system client might have
done. -/
theorem Orderly.of_system (h : b.Orderly) (hupholds : b.driver.Upholds Bus.system after.driver)
    (hsame : ∀ name, after.endpoint? name = b.endpoint? name) : after.Orderly := by
  refine ⟨hupholds.consistent, fun x ex hx => ?_, fun x ex y ey c hx hy hcx hcy => ?_⟩
  · rw [hsame] at hx
    exact (h.stands x ex hx).upholds_system hupholds
  · rw [hsame] at hx hy
    exact h.apart x ex y ey c hx hy hcx hcy

/-- An operation on an item, which stays on the bench or is taken away. -/
theorem Orderly.performs {op : Endpoint.Operation} {done : Item × Bus Listener} (h : b.Orderly)
    (hitem : b.item? name = some item)
    (hperforms : item.Performs (Bus.driver settings) op b.driver done)
    (hdriver : after.driver = done.2) (hroom : b.driver.nextId ≤ after.driver.nextId)
    (hself : ∀ e', after.endpoint? name = some e' → done.1.endpoint? = some e')
    (hothers : ∀ other, other ≠ name → after.endpoint? other = b.endpoint? other) :
    after.Orderly := by
  have hname : b.endpoint? name = item.endpoint? := by
    rw [endpoint?, hitem]
    rfl
  rcases hperforms with ⟨hnone, hnone', hsame⟩ | ⟨e, he, he', hafter⟩
  · rw [hnone] at hname
    refine h.of_system (by rw [hdriver, hsame]; exact .refl h.consistent _) fun other => ?_
    by_cases hother : other = name
    · rw [hother, hname, Option.eq_none_iff_forall_ne_some]
      intro e' he'
      have hgone := hself e' he'
      rw [hnone'] at hgone
      cases hgone
    · exact hothers other hother
  · rw [he] at hname
    rw [hdriver, hafter] at hroom
    have hworks := Endpoint.perform_works h.consistent (h.stands name e hname) op hroom
    rw [← hafter, ← hdriver] at hworks
    refine h.acts name (e.seat b.driver) hworks.upholds
      (fun other ex c hne hother hc => h.alone hname hne hother hc) (fun ex hex => ?_) hothers
    have heq := hself ex hex
    rw [he'] at heq
    cases heq
    exact ⟨hworks.stands, hworks.client_eq⟩

theorem Orderly.performed {op : Endpoint.Operation}
    {operation : Item → Bus Listener → Outcome Item (Bus Listener) Listener Unit}
    (h : b.Orderly) (hitem : b.item? name = some item)
    (hperforms : item.Performs (Bus.driver settings) op b.driver (operation item b.driver).final)
    (hroom : b.driver.nextId ≤ (b.perform name item operation).2.driver.nextId) :
    (b.perform name item operation).2.Orderly := by
  obtain ⟨hdriver, hends⟩ := b.perform_endpoint? name item operation
  refine h.performs hitem hperforms hdriver hroom (fun e' he' => ?_) fun other hne => ?_
  · rwa [hends, if_pos rfl] at he'
  · rw [hends, if_neg hne]

theorem Orderly.changed {op : Endpoint.Operation}
    {operation : Item → Bus Listener → Item × Bus Listener} (h : b.Orderly)
    (hitem : b.item? name = some item)
    (hperforms : item.Performs (Bus.driver settings) op b.driver (operation item b.driver))
    (hroom : b.driver.nextId ≤ (b.change name item operation).driver.nextId) :
    (b.change name item operation).Orderly := by
  obtain ⟨hdriver, hends⟩ := b.change_endpoint? name item operation
  refine h.performs hitem hperforms hdriver hroom (fun e' he' => ?_) fun other hne => ?_
  · rwa [hends, if_pos rfl] at he'
  · rw [hends, if_neg hne]

theorem Orderly.drop (h : b.Orderly) (name : String)
    (hroom : b.driver.nextId ≤ (b.drop (Bus.driver settings) name).2.driver.nextId) :
    (b.drop (Bus.driver settings) name).2.Orderly := by
  cases hitem : b.item? name with
  | none =>
    rw [drop_none _ hitem]
    exact h
  | some item =>
    obtain ⟨hdriver, hends⟩ := drop_endpoint? (Bus.driver settings) hitem
    refine h.performs hitem (Item.shutdown_performs _ item b.driver) hdriver hroom
      (fun e' he' => ?_) fun other hne => ?_
    · rw [hends, if_pos rfl] at he'
      cases he'
    · rw [hends, if_neg hne]

/-- A fresh item has no client. -/
theorem Orderly.putItem (h : b.Orderly)
    (hfresh : ∀ e, item.endpoint? = some e → e.link = .disconnected) :
    (b.putItem name item).Orderly := by
  have hends := b.endpoint?_putItem name item
  refine h.acts name Bus.system ?_ (fun other ex c _ hother hc => ?_) (fun e' he' => ?_)
    fun other hne => ?_
  · rw [putItem_driver]
    exact .refl h.consistent _
  · exact ((h.stands other ex hother).seats hc).1
  · rw [hends, if_pos rfl] at he'
    rw [hfresh e' he']
    exact ⟨trivial, nofun⟩
  · rw [hends, if_neg hne]

theorem Orderly.place (h : b.Orderly)
    (hfresh : ∀ e, item.endpoint? = some e → e.link = .disconnected)
    (hroom : b.driver.nextId ≤ (b.place (Bus.driver settings) name item).driver.nextId) :
    (b.place (Bus.driver settings) name item).Orderly := by
  unfold Bench.place at hroom ⊢
  rw [putItem_driver] at hroom
  exact (h.drop name hroom).putItem hfresh

theorem Orderly.send (h : b.Orderly) {o : Output Listener} {bytes : Bytes}
    (hitem : b.item? name = some (.output o)) :
    Orderly (Bench.putItem { b with driver := (o.send (Bus.driver settings) b.driver bytes).2.2 }
      name (.output (o.send (Bus.driver settings) b.driver bytes).2.1)) := by
  have hsend := Output.send_upholds h.consistent settings o bytes
  refine h.of_system ?_ fun other => ?_
  · rw [putItem_driver]
    exact (hsend _).1
  · rw [endpoint?_putItem]
    split
    · rename_i hother
      rw [hother, endpoint?, hitem]
      exact congrArg some (hsend Bus.system).2
    · rfl

theorem Orderly.withItem {f : Item → Bench (Bus Listener)} (h : b.Orderly)
    (hf : ∀ item, b.item? name = some item → b.driver.nextId ≤ (f item).driver.nextId →
      (f item).Orderly)
    (hroom : b.driver.nextId ≤ (b.withItem name f).driver.nextId) :
    (b.withItem name f).Orderly := by
  unfold Bench.withItem at hroom ⊢
  cases hitem : b.item? name with
  | none => exact h
  | some item =>
    rw [hitem] at hroom
    exact hf item hitem hroom

/-- A step. -/
theorem Orderly.step (h : b.Orderly) (step : Step)
    (hroom : b.driver.nextId ≤ (b.step settings step).driver.nextId) :
    (b.step settings step).Orderly := by
  have hb := h.consistent
  cases step with
  | newInput name s mode =>
    refine h.place (fun e he => ?_) hroom
    cases he
    rfl
  | newOutput name s =>
    refine h.place (fun e he => ?_) hroom
    cases he
    rfl
  | drop name => exact h.drop name hroom
  | openPort name index port =>
    refine h.withItem (fun item hitem hroom => ?_) hroom
    exact h.performed hitem (Item.openPort_performs _ index port item b.driver) hroom
  | openVirtualPort name port =>
    refine h.withItem (fun item hitem hroom => ?_) hroom
    exact h.performed hitem (Item.openVirtualPort_performs _ port item b.driver) hroom
  | closePort name =>
    refine h.withItem (fun item hitem hroom => ?_) hroom
    exact h.changed hitem (Item.closePort_performs _ item b.driver) hroom
  | setPortName name port =>
    refine h.withItem (fun item hitem hroom => ?_) hroom
    exact h.performed hitem (Item.setPortName_performs _ port item b.driver) hroom
  | setClientName name client =>
    refine h.withItem (fun item hitem hroom => ?_) hroom
    exact h.performed hitem (Item.setClientName_performs _ client item b.driver) hroom
  | send name bytes =>
    refine h.withItem (fun item hitem _ => ?_) hroom
    cases item with
    | output o => exact h.send hitem
    | _ => exact h
  | addSource port =>
    exact h.of_system (hb.upholds_addPort (Bus.spare_of_le hroom) _ hb.system_open _) fun _ => rfl
  | addDestination port =>
    exact h.of_system (hb.upholds_addPort (Bus.spare_of_le hroom) _ hb.system_open _) fun _ => rfl
  | removeSystemPort port =>
    refine h.of_system ?_ fun _ => rfl
    simp only [Bench.step, Bus.removeSystemPort]
    split
    · exact .refl hb _
    · exact hb.upholds_unregisterPort Bus.system _
  | inject source events => exact h.of_system (hb.upholds_inject source events _) fun _ => rfl
  | setAvailable available =>
    exact h.of_system (.of_same (hb.setAvailable available) rfl rfl rfl _) fun _ => rfl
  | dispatch =>
    obtain ⟨hdriver, hsame⟩ := routeAll_endpoint? { b with driver := b.driver.dispatch.2 }
      b.driver.dispatch.1.toList
    refine h.of_system ?_ hsame
    rw [Bench.step, hdriver]
    exact hb.upholds_dispatch _

/-- A run. -/
theorem Reached.orderly (h : Reached settings b) : b.Orderly := by
  induction h with
  | new => exact orderly_new
  | step _ step hroom ih => exact ih.step step hroom

/-- **A connected endpoint is subscribed.** Inputs and outputs on a bus are set up, open their
ports, close them, are renamed and dropped, and send, while sources and destinations are added and
removed, events are injected, new clients are let in or kept out, and the dispatcher gets to run
whenever it does. At any time, an endpoint that says that it is connected has its port registered on
the bus for its own client and with its own direction; and either the port that it connected to is
gone, or that port has the opposite direction and the subscription of the two is there, the source
first. -/
theorem connected_subscribed (h : Reached settings b) (he : b.endpoint? name = some e)
    (hconnected : e.isConnected = true) :
    ∃ client port peer q own, e.link = .portOpen client port (some peer) ∧
      b.driver.ports.lookup port = some own ∧ own.owner = client ∧ own.direction = e.direction ∧
      Bus.portAt? peer = some q ∧
      (b.driver.Gone q ∨ ∃ other, b.driver.ports.lookup q = some other ∧
        other.direction = e.direction.peer ∧
        Bus.subscription e.direction port q ∈ b.driver.subscriptions) := by
  obtain ⟨client, port, peer, hlink⟩ := Endpoint.link_of_isConnected hconnected
  have hstands := h.orderly.stands name e he
  rw [hlink] at hstands
  obtain ⟨-, hrole, hlinked⟩ := hstands
  obtain ⟨own, hown, howner⟩ := Bus.lookup_of_role? hrole
  obtain ⟨q, hat, hbelow, hq⟩ := hlinked peer rfl
  refine ⟨client, port, peer, q, own, hlink, hown, congrArg Prod.fst howner,
    congrArg Prod.snd howner, hat, ?_⟩
  rcases hq with hgone | ⟨⟨owner, hpeer⟩, hs⟩
  · exact .inl ⟨hbelow, hgone⟩
  · obtain ⟨other, hother, hroles⟩ := Bus.lookup_of_role? hpeer
    exact .inr ⟨other, hother, congrArg Prod.snd hroles, hs⟩

/-- Two inputs connect to one source, and one of them closes its port again. -/
def shared : Bench (Bus Listener) :=
  [Step.addSource "Keys", .newInput "first" {} .queue, .newInput "second" {} .callback,
    .openPort "first" 0 "in", .openPort "second" 0 "in", .closePort "second"].foldl (step {})
    { driver := {} }

theorem shared_reached : Reached {} shared := by
  have h : Reached {} { driver := {} } := Reached.new
  have h := h.step (.addSource "Keys") (by decide +kernel)
  have h := h.step (.newInput "first" {} .queue) (by decide +kernel)
  have h := h.step (.newInput "second" {} .callback) (by decide +kernel)
  have h := h.step (.openPort "first" 0 "in") (by decide +kernel)
  have h := h.step (.openPort "second" 0 "in") (by decide +kernel)
  exact h.step (.closePort "second") (by decide +kernel)

/-- The other one stays connected, and its subscription is there. -/
theorem connected_subscribed_shared :
    ∃ e, (Reached {} shared ∧ shared.endpoint? "first" = some e ∧ e.isConnected = true) ∧
      ∃ client port peer q own, e.link = .portOpen client port (some peer) ∧
        shared.driver.ports.lookup port = some own ∧ own.owner = client ∧
        own.direction = e.direction ∧ Bus.portAt? peer = some q ∧
        (shared.driver.Gone q ∨ ∃ other, shared.driver.ports.lookup q = some other ∧
          other.direction = e.direction.peer ∧
          Bus.subscription e.direction port q ∈ shared.driver.subscriptions) := by
  have hlink : (shared.endpoint? "first").map (·.link) =
      some (.portOpen ⟨2⟩ ⟨3⟩ (some ⟨"1"⟩)) := by decide +kernel
  obtain ⟨e, he, hopen⟩ := Option.map_eq_some_iff.mp hlink
  have hconnected : e.isConnected = true := by
    rw [Endpoint.isConnected, hopen]
    rfl
  exact ⟨e, ⟨shared_reached, he, hconnected⟩,
    connected_subscribed shared_reached he hconnected⟩

end Bench

end PatchBay
