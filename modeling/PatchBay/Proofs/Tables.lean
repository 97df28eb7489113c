import Mathlib.Data.List.Nodup
import PatchBay.Bus

/-!
# The tables of a bus

A bus keeps its clients, ports, subscriptions, handlers, outboxes and captured events apart. They
refer to one another by handles, and each operation updates those that it concerns. A *consistent*
bus has no reference to something that is gone, and no handle that means two things. Every operation
keeps a bus consistent, as long as handles are left to give out.
-/

namespace PatchBay

namespace Bus

variable {η : Type} {b after : Bus η} {client : ClientId} {port : PortId}

/-! ## Looking up -/

theorem lookup_filter {κ β : Type} [BEq κ] [LawfulBEq κ] (l : List (κ × β)) (p : κ → Bool)
    (key : κ) : (l.filter fun x => p x.1).lookup key = if p key then l.lookup key else none := by
  induction l with
  | nil => simp
  | cons x l ih =>
    obtain ⟨k, v⟩ := x
    rw [List.filter_cons, List.lookup_cons]
    by_cases hkey : key = k
    · subst hkey
      cases hp : p key
      · simpa [hp] using ih
      · simp
    · have hne : (key == k) = false := beq_false_of_ne hkey
      rw [hne]
      cases hp : p k
      · simpa [hp] using ih
      · simpa [hp, List.lookup_cons, hne] using ih

theorem lookup_filter_ne {κ β : Type} [DecidableEq κ] (l : List (κ × β)) (gone key : κ) :
    (l.filter (·.1 ≠ gone)).lookup key = if key = gone then none else l.lookup key := by
  rw [lookup_filter l (fun k => decide (k ≠ gone))]
  by_cases hkey : key = gone <;> simp [hkey]

theorem hasClient_iff : b.hasClient client ↔ client ∈ b.clients.map (·.1) := by
  rw [hasClient, List.lookup_isSome_iff, List.mem_map]
  simp only [beq_iff_eq, eq_comm (a := client)]

/-- Who owns a port and which direction it has. Neither changes while the port is there. -/
def role? (b : Bus η) (port : PortId) : Option (ClientId × Direction) :=
  (b.ports.lookup port).map fun entry => (entry.owner, entry.direction)

theorem mem_of_lookup {entry : Port} (h : b.ports.lookup port = some entry) :
    (port, entry) ∈ b.ports := by
  obtain ⟨l₁, l₂, heq, -⟩ := List.lookup_eq_some_iff.mp h
  simp [heq]

theorem role?_eq {entry : Port} (h : b.ports.lookup port = some entry) :
    b.role? port = some (entry.owner, entry.direction) := by
  simp [role?, h]

theorem lookup_of_role? {r : ClientId × Direction} (h : b.role? port = some r) :
    ∃ entry, b.ports.lookup port = some entry ∧ (entry.owner, entry.direction) = r :=
  Option.map_eq_some_iff.mp h

theorem lookup_of_ownPort {entry : Port} (h : b.ownPort client port = .ok entry) :
    b.ports.lookup port = some entry ∧ entry.owner = client := by
  unfold ownPort at h
  cases hlook : b.ports.lookup port with
  | none => simp [hlook] at h
  | some found =>
    simp only [hlook] at h
    split at h
    · cases h
      exact ⟨rfl, ‹_›⟩
    · cases h

theorem owns_iff :
    b.owns client port = true ↔
      ∃ entry, b.ports.lookup port = some entry ∧ entry.owner = client := by
  unfold owns
  cases b.ports.lookup port <;> simp

/-! ## Consistent buses -/

/-- The numbers of the handles of what is there. -/
def handles (b : Bus η) : List UInt32 :=
  b.clients.map (·.1.number) ++ b.ports.map (·.1.number)

/-- Events may be on their way to a port that receives, and to one that is gone for good. -/
def Aims (b : Bus η) (port : PortId) : Prop :=
  port.number < b.nextId ∧ ∀ owner, b.role? port ≠ some (owner, .output)

/-- Every reference is to something that is there, and a handle means one thing. -/
structure Consistent (b : Bus η) : Prop where
  system_open : b.hasClient system
  owner_open : ∀ p ∈ b.ports, b.hasClient p.2.owner
  handles_nodup : b.handles.Nodup
  handles_below : ∀ n ∈ b.handles, n < b.nextId
  source_output : ∀ s ∈ b.subscriptions, ∃ owner, b.role? s.1 = some (owner, .output)
  target_input : ∀ s ∈ b.subscriptions, ∃ owner, b.role? s.2 = some (owner, .input)
  subscriptions_nodup : b.subscriptions.Nodup
  handler_open : ∀ h ∈ b.handlers, b.hasClient h.1
  handlers_nodup : (b.handlers.map (·.1)).Nodup
  sender_open : ∀ p ∈ b.outbox, b.hasClient p.sender
  captured_input : ∀ c ∈ b.captured, b.role? c.1 = some (system, .input)
  outbox_aims : ∀ p ∈ b.outbox, b.Aims p.destination
  queue_aims : ∀ batch ∈ b.queue, b.Aims batch.port

theorem consistent_empty : ({} : Bus η).Consistent where
  system_open := rfl
  owner_open := nofun
  handles_nodup := by simp [handles]
  handles_below := by simp [handles, system]
  source_output := nofun
  target_input := nofun
  subscriptions_nodup := .nil
  handler_open := nofun
  handlers_nodup := .nil
  sender_open := nofun
  captured_input := nofun
  outbox_aims := nofun
  queue_aims := nofun

theorem Consistent.port_below (h : b.Consistent) {r : ClientId × Direction}
    (hr : b.role? port = some r) : port.number < b.nextId := by
  obtain ⟨entry, hlook, -⟩ := lookup_of_role? hr
  exact h.handles_below _ (List.mem_append_right _ (List.mem_map_of_mem (mem_of_lookup hlook)))

theorem Consistent.target_aims (h : b.Consistent) {source : PortId}
    (hd : port ∈ b.destinations source) : b.Aims port := by
  obtain ⟨s, hs, rfl⟩ := List.mem_map.mp hd
  obtain ⟨owner, hrole⟩ := h.target_input s (List.mem_of_mem_filter hs)
  refine ⟨h.port_below hrole, fun owner' heq => ?_⟩
  rw [hrole] at heq
  cases heq

/-! ## One bus after another -/

/-- A later bus. What is there under a handle that had been given out before was there before. -/
structure Precedes (b after : Bus η) : Prop where
  nextId_le : b.nextId ≤ after.nextId
  client : ∀ c : ClientId, c.number < b.nextId → after.hasClient c → b.hasClient c
  port : ∀ (p : PortId) r, p.number < b.nextId → after.role? p = some r → b.role? p = some r

theorem Precedes.refl (b : Bus η) : b.Precedes b :=
  ⟨UInt32.le_refl _, fun _ _ h => h, fun _ _ _ h => h⟩

theorem Precedes.trans {c : Bus η} (h : b.Precedes after) (h' : after.Precedes c) :
    b.Precedes c := by
  refine ⟨UInt32.le_trans h.nextId_le h'.nextId_le, fun x hx hc => ?_, fun p r hp hr => ?_⟩
  · exact h.client x hx (h'.client x (UInt32.lt_of_lt_of_le hx h.nextId_le) hc)
  · exact h.port p r hp (h'.port p r (UInt32.lt_of_lt_of_le hp h.nextId_le) hr)

/-- A port that is gone stays gone. -/
theorem Precedes.role?_none (h : b.Precedes after) (hbelow : port.number < b.nextId)
    (hgone : b.role? port = none) : after.role? port = none := by
  rw [Option.eq_none_iff_forall_ne_some]
  intro r hr
  have hold := h.port port r hbelow hr
  rw [hgone] at hold
  cases hold

theorem Precedes.aims (h : b.Precedes after) (ha : b.Aims port) : after.Aims port :=
  ⟨UInt32.lt_of_lt_of_le ha.1 h.nextId_le, fun owner heq => ha.2 owner (h.port port _ ha.1 heq)⟩

/-- A consistent bus after another one, where calls gave out handles with some numbers. -/
structure Evolves (b : Bus η) (given : List UInt32) (after : Bus η) : Prop where
  consistent : after.Consistent
  precedes : b.Precedes after
  given_eq : given.map UInt32.toNat = List.range' b.nextId.toNat given.length
  nextId_eq : after.nextId.toNat = b.nextId.toNat + given.length

theorem Evolves.refl (h : b.Consistent) : b.Evolves [] b := ⟨h, .refl b, rfl, rfl⟩

theorem Evolves.trans {first more : List UInt32} {c : Bus η} (h : b.Evolves first after)
    (h' : after.Evolves more c) : b.Evolves (first ++ more) c := by
  refine ⟨h'.consistent, h.precedes.trans h'.precedes, ?_, ?_⟩
  · rw [List.map_append, h.given_eq, h'.given_eq, h.nextId_eq, List.length_append,
      ← List.range'_append_1]
  · rw [h'.nextId_eq, h.nextId_eq, List.length_append]
    omega

theorem Evolves.nodup {given : List UInt32} (h : b.Evolves given after) : given.Nodup := by
  refine List.Nodup.of_map UInt32.toNat ?_
  rw [h.given_eq]
  exact List.nodup_range'

theorem Evolves.between {given : List UInt32} (h : b.Evolves given after) :
    ∀ n ∈ given, b.nextId ≤ n ∧ n < after.nextId := by
  intro n hn
  have hmem : n.toNat ∈ given.map UInt32.toNat := List.mem_map_of_mem hn
  rw [h.given_eq, List.mem_range'_1] at hmem
  rw [UInt32.le_iff_toNat_le, UInt32.lt_iff_toNat_lt, h.nextId_eq]
  exact hmem

/-- No handle was given out. -/
theorem Evolves.keep (hc : after.Consistent) (hp : b.Precedes after)
    (hnext : after.nextId = b.nextId) : b.Evolves [] after :=
  ⟨hc, hp, rfl, congrArg UInt32.toNat hnext⟩

/-- The clients and the ports are the same. -/
theorem Evolves.same (hc : after.Consistent) (hclients : after.clients = b.clients)
    (hports : after.ports = b.ports) (hnext : after.nextId = b.nextId) : b.Evolves [] after := by
  refine .keep hc ⟨hnext ▸ UInt32.le_refl _, fun c _ hopen => ?_, fun p r _ hr => ?_⟩ hnext
  · rwa [hasClient, hclients] at hopen
  · rwa [role?, hports] at hr

/-- One handle was given out. -/
theorem Evolves.take (hc : after.Consistent) (hp : b.Precedes after)
    (hnext : after.nextId.toNat = b.nextId.toNat + 1) : b.Evolves [b.nextId] after :=
  ⟨hc, hp, rfl, hnext⟩

theorem next_toNat {n : UInt32} (hspare : n.toNat + 1 < UInt32.size) :
    (n + 1).toNat = n.toNat + 1 := by
  rw [UInt32.toNat_add]
  exact Nat.mod_eq_of_lt hspare

theorem le_next {n : UInt32} (hspare : n.toNat + 1 < UInt32.size) : n ≤ n + 1 := by
  rw [UInt32.le_iff_toNat_le, next_toNat hspare]
  omega

theorem lt_next {m n : UInt32} (hspare : n.toNat + 1 < UInt32.size) (hm : m ≤ n) : m < n + 1 := by
  rw [UInt32.le_iff_toNat_le] at hm
  rw [UInt32.lt_iff_toNat_lt, next_toNat hspare]
  omega

/-- The next handle is new. -/
theorem Consistent.handles_next (h : b.Consistent) (hspare : b.nextId.toNat + 1 < UInt32.size)
    (hhandles : after.handles.Perm (b.nextId :: b.handles)) :
    after.handles.Nodup ∧ ∀ n ∈ after.handles, n < b.nextId + 1 := by
  refine ⟨hhandles.nodup_iff.mpr (List.nodup_cons.mpr ⟨fun hmem => ?_, h.handles_nodup⟩),
    fun n hn => ?_⟩
  · exact UInt32.lt_irrefl _ (h.handles_below _ hmem)
  · rcases List.mem_cons.mp (hhandles.mem_iff.mp hn) with rfl | hold
    · exact lt_next hspare (UInt32.le_refl _)
    · exact lt_next hspare (UInt32.le_of_lt (h.handles_below n hold))

/-! ## Clients -/

theorem Consistent.openClient (h : b.Consistent) (hspare : b.nextId.toNat + 1 < UInt32.size)
    (name : String) :
    b.Evolves [b.nextId] { b.takeId.2 with clients := b.clients ++ [(⟨b.nextId⟩, name)] } := by
  generalize heq :
    ({ b.takeId.2 with clients := b.clients ++ [(⟨b.nextId⟩, name)] } : Bus η) = after
  have hclients : after.clients = b.clients ++ [(⟨b.nextId⟩, name)] := by rw [← heq]
  have hnext : after.nextId = b.nextId + 1 := by rw [← heq, takeId]
  have hmono : ∀ c, b.hasClient c → after.hasClient c := by
    intro c hc
    rw [hasClient_iff] at hc ⊢
    rw [hclients, List.map_append]
    exact List.mem_append_left _ hc
  have hp : b.Precedes after := by
    refine ⟨hnext ▸ le_next hspare, fun c hlt hc => ?_, fun p r _ hr => ?_⟩
    · rw [hasClient_iff] at hc ⊢
      rw [hclients, List.map_append, List.mem_append] at hc
      refine hc.resolve_right fun hnew => ?_
      rw [List.map_singleton, List.mem_singleton] at hnew
      rw [hnew] at hlt
      exact UInt32.lt_irrefl _ hlt
    · rw [← heq] at hr
      exact hr
  have hhandles : after.handles.Perm (b.nextId :: b.handles) := by
    rw [handles, hclients, ← heq]
    simp [handles, takeId, List.perm_middle]
  refine .take ?_ hp (hnext ▸ next_toNat hspare)
  subst heq
  exact { h with
    system_open := hmono _ h.system_open
    owner_open := fun p hmem => hmono _ (h.owner_open p hmem)
    handles_nodup := (h.handles_next hspare hhandles).1
    handles_below := (h.handles_next hspare hhandles).2
    handler_open := fun x hx => hmono _ (h.handler_open x hx)
    sender_open := fun x hx => hmono _ (h.sender_open x hx)
    outbox_aims := fun x hx => hp.aims (h.outbox_aims x hx)
    queue_aims := fun x hx => hp.aims (h.queue_aims x hx) }

theorem Consistent.setHandler (h : b.Consistent) (client : ClientId) (handler : η) :
    b.Evolves [] (b.setHandler client handler).2 := by
  unfold Bus.setHandler
  split
  · rename_i hopen
    refine .same ?_ rfl rfl rfl
    exact { h with
      handler_open := by
        intro x hx
        rcases List.mem_append.mp hx with hold | hnew
        · exact h.handler_open x (List.mem_of_mem_filter hold)
        · rw [List.mem_singleton.mp hnew]
          exact hopen
      handlers_nodup := by
        rw [List.map_append, List.map_singleton, List.nodup_append]
        refine ⟨(List.filter_sublist.map _).nodup h.handlers_nodup, List.nodup_singleton _, ?_⟩
        intro c hc d hd heq
        obtain ⟨x, hx, rfl⟩ := List.mem_map.mp hc
        rw [List.mem_singleton.mp hd] at heq
        exact of_decide_eq_true (List.mem_filter.mp hx).2 heq }
  · exact .refl h

/-! ## Ports -/

theorem role?_addPort {entry : Port} {r : ClientId × Direction} (hr : b.role? port = some r) :
    (b.addPort entry).2.role? port = some r := by
  obtain ⟨found, hlook, heq⟩ := lookup_of_role? hr
  simp [role?, addPort, takeId, List.lookup_append, hlook, heq]

theorem Consistent.addPort (h : b.Consistent) (hspare : b.nextId.toNat + 1 < UInt32.size)
    {entry : Port} (howner : b.hasClient entry.owner) :
    b.Evolves [b.nextId] (b.addPort entry).2 := by
  have hp : b.Precedes (b.addPort entry).2 := by
    refine ⟨le_next hspare, fun _ _ hc => hc, fun p r hlt hr => ?_⟩
    have hne : (p == ⟨b.nextId⟩) = false := by
      refine beq_false_of_ne fun heq => ?_
      rw [heq] at hlt
      exact UInt32.lt_irrefl _ hlt
    simpa [role?, Bus.addPort, takeId, List.lookup_append, List.lookup_cons, hne] using hr
  have hhandles : (b.addPort entry).2.handles.Perm (b.nextId :: b.handles) := by
    have heq : (b.addPort entry).2.handles = b.handles ++ [b.nextId] := by
      simp [handles, Bus.addPort, takeId]
    rw [heq]
    exact List.perm_append_singleton _ _
  refine .take ?_ hp (next_toNat hspare)
  exact { h with
    owner_open := by
      intro p hmem
      rcases List.mem_append.mp hmem with hold | hnew
      · exact h.owner_open p hold
      · rw [List.mem_singleton.mp hnew]
        exact howner
    handles_nodup := (h.handles_next hspare hhandles).1
    handles_below := (h.handles_next hspare hhandles).2
    source_output := fun s hs => (h.source_output s hs).imp fun _ hr => role?_addPort hr
    target_input := fun s hs => (h.target_input s hs).imp fun _ hr => role?_addPort hr
    captured_input := fun c hc => role?_addPort (h.captured_input c hc)
    outbox_aims := fun x hx => hp.aims (h.outbox_aims x hx)
    queue_aims := fun x hx => hp.aims (h.queue_aims x hx) }

theorem role?_removePort (b : Bus η) (gone port : PortId) :
    (b.removePort gone).role? port = if port = gone then none else b.role? port := by
  rw [role?, removePort, lookup_filter_ne]
  split
  · rfl
  · rfl

theorem Consistent.removePort (h : b.Consistent) (gone : PortId) :
    b.Evolves [] (b.removePort gone) := by
  have hrole : ∀ {p : PortId} {r}, p ≠ gone → b.role? p = some r →
      (b.removePort gone).role? p = some r := by
    intro p r hne hr
    rw [role?_removePort, if_neg hne, hr]
  have hp : b.Precedes (b.removePort gone) := by
    refine ⟨UInt32.le_refl _, fun _ _ hc => hc, fun p r _ hr => ?_⟩
    rw [role?_removePort] at hr
    split at hr
    · cases hr
    · exact hr
  have hends : ∀ s ∈ (b.removePort gone).subscriptions,
      s ∈ b.subscriptions ∧ s.1 ≠ gone ∧ s.2 ≠ gone := by
    intro s hs
    obtain ⟨hmem, hne⟩ := List.mem_filter.mp hs
    exact ⟨hmem, of_decide_eq_true hne⟩
  have hhandles : (b.removePort gone).handles.Sublist b.handles :=
    (List.Sublist.refl _).append (List.filter_sublist.map _)
  refine .keep ?_ hp rfl
  exact { h with
    owner_open := fun p hmem => h.owner_open p (List.mem_of_mem_filter hmem)
    handles_nodup := hhandles.nodup h.handles_nodup
    handles_below := fun n hn => h.handles_below n (hhandles.subset hn)
    source_output := by
      intro s hs
      obtain ⟨hmem, hne, -⟩ := hends s hs
      exact (h.source_output s hmem).imp fun _ => hrole hne
    target_input := by
      intro s hs
      obtain ⟨hmem, -, hne⟩ := hends s hs
      exact (h.target_input s hmem).imp fun _ => hrole hne
    subscriptions_nodup := h.subscriptions_nodup.filter _
    captured_input := by
      intro c hc
      obtain ⟨hmem, hne⟩ := List.mem_filter.mp hc
      exact hrole (of_decide_eq_true hne) (h.captured_input c hmem)
    outbox_aims := fun x hx => hp.aims (h.outbox_aims x hx)
    queue_aims := fun x hx => hp.aims (h.queue_aims x hx) }

theorem Consistent.unregisterPort (h : b.Consistent) (client : ClientId) (port : PortId) :
    b.Evolves [] (b.unregisterPort client port) := by
  unfold Bus.unregisterPort
  split
  · exact h.removePort port
  · exact .refl h

theorem Consistent.removePorts (h : b.Consistent) (ports : List PortId) :
    b.Evolves [] (ports.foldl Bus.removePort b) := by
  induction ports generalizing b with
  | nil => exact .refl h
  | cons port ports ih => exact (h.removePort port).trans (ih (h.removePort port).consistent)

/-- Removing ports one after the other removes all of them from each table. -/
theorem removePorts_eq (b : Bus η) (gone : List PortId) :
    gone.foldl Bus.removePort b = { b with
      ports := b.ports.filter (·.1 ∉ gone)
      subscriptions := b.subscriptions.filter fun s => s.1 ∉ gone ∧ s.2 ∉ gone
      captured := b.captured.filter (·.1 ∉ gone) } := by
  induction gone generalizing b with
  | nil => simp
  | cons port gone ih =>
    rw [List.foldl_cons, ih]
    simp only [removePort, List.filter_filter]
    congr 1
    · exact List.filter_congr fun p _ => by simp [Bool.and_comm]
    · exact List.filter_congr fun s _ => by grind
    · exact List.filter_congr fun c _ => by simp [Bool.and_comm]

theorem mem_removePorts {ports : List PortId} {p : PortId × Port}
    (hp : p ∈ (ports.foldl Bus.removePort b).ports) : p ∈ b.ports ∧ p.1 ∉ ports := by
  rw [removePorts_eq] at hp
  obtain ⟨hmem, hnot⟩ := List.mem_filter.mp hp
  exact ⟨hmem, of_decide_eq_true hnot⟩

/-- Forgets a client that has no ports any more. -/
theorem Consistent.forgetClient (h : b.Consistent) (hsystem : client ≠ system)
    (hports : ∀ p ∈ b.ports, p.2.owner ≠ client) :
    b.Evolves [] { b with
      handlers := b.handlers.filter (·.1 ≠ client)
      outbox := b.outbox.filter (·.sender ≠ client)
      clients := b.clients.filter (·.1 ≠ client) } := by
  generalize heq : ({ b with
      handlers := b.handlers.filter (·.1 ≠ client)
      outbox := b.outbox.filter (·.sender ≠ client)
      clients := b.clients.filter (·.1 ≠ client) } : Bus η) = after
  have hclient : ∀ c, after.hasClient c ↔ b.hasClient c ∧ c ≠ client := by
    intro c
    rw [hasClient, ← heq, lookup_filter_ne, hasClient]
    by_cases hc : c = client <;> simp [hc]
  have hp : b.Precedes after := by
    subst heq
    exact ⟨UInt32.le_refl _, fun c _ hc => ((hclient c).mp hc).1, fun _ _ _ hr => hr⟩
  have hhandles : after.handles.Sublist b.handles := by
    subst heq
    exact (List.filter_sublist.map _).append (List.Sublist.refl _)
  refine .keep ?_ hp (by rw [← heq])
  subst heq
  exact { h with
    system_open := (hclient _).mpr ⟨h.system_open, hsystem.symm⟩
    owner_open := fun p hmem => (hclient _).mpr ⟨h.owner_open p hmem, hports p hmem⟩
    handles_nodup := hhandles.nodup h.handles_nodup
    handles_below := fun n hn => h.handles_below n (hhandles.subset hn)
    handler_open := by
      intro x hx
      obtain ⟨hmem, hne⟩ := List.mem_filter.mp hx
      exact (hclient _).mpr ⟨h.handler_open x hmem, of_decide_eq_true hne⟩
    handlers_nodup := (List.filter_sublist.map _).nodup h.handlers_nodup
    sender_open := by
      intro x hx
      obtain ⟨hmem, hne⟩ := List.mem_filter.mp hx
      exact (hclient _).mpr ⟨h.sender_open x hmem, of_decide_eq_true hne⟩
    outbox_aims := fun x hx => hp.aims (h.outbox_aims x (List.mem_of_mem_filter hx))
    queue_aims := fun x hx => hp.aims (h.queue_aims x hx) }

theorem Consistent.closeClient (h : b.Consistent) (client : ClientId) :
    b.Evolves [] (b.closeClient client) := by
  unfold Bus.closeClient
  split
  · exact .refl h
  · rename_i hsystem
    have hremoved := h.removePorts (b.portsOf client)
    refine hremoved.trans (hremoved.consistent.forgetClient hsystem fun p hp heq => ?_)
    obtain ⟨hmem, hnot⟩ := mem_removePorts hp
    exact hnot (List.mem_map_of_mem (List.mem_filter.mpr ⟨hmem, decide_eq_true heq⟩))

theorem role?_map {f : PortId × Port → PortId × Port} (hid : ∀ p, (f p).1 = p.1)
    (hkept : ∀ p, (f p).2.owner = p.2.owner ∧ (f p).2.direction = p.2.direction)
    (b : Bus η) (port : PortId) : ({ b with ports := b.ports.map f } : Bus η).role? port =
      b.role? port := by
  unfold role?
  dsimp only
  induction b.ports with
  | nil => rfl
  | cons p ports ih =>
    obtain ⟨howner, hdirection⟩ := hkept p
    rw [List.map_cons, List.lookup_cons, List.lookup_cons, hid p]
    cases port == p.1 with
    | true => simp [howner, hdirection]
    | false => exact ih

/-- Changes entries and leaves alone what they are for. -/
theorem Consistent.mapPorts (h : b.Consistent) {f : PortId × Port → PortId × Port}
    (hid : ∀ p, (f p).1 = p.1)
    (hkept : ∀ p, (f p).2.owner = p.2.owner ∧ (f p).2.direction = p.2.direction) :
    b.Evolves [] { b with ports := b.ports.map f } := by
  have hrole := role?_map hid hkept b
  have hp : b.Precedes { b with ports := b.ports.map f } :=
    ⟨UInt32.le_refl _, fun _ _ hc => hc, fun p r _ hr => (hrole p).symm.trans hr⟩
  have hhandles : ({ b with ports := b.ports.map f } : Bus η).handles = b.handles := by
    simp [handles, hid]
  refine .keep ?_ hp rfl
  exact { h with
    owner_open := by
      intro p hmem
      obtain ⟨q, hq, rfl⟩ := List.mem_map.mp hmem
      rw [(hkept q).1]
      exact h.owner_open q hq
    handles_nodup := hhandles ▸ h.handles_nodup
    handles_below := hhandles ▸ h.handles_below
    source_output := fun s hs => (h.source_output s hs).imp fun _ hr => (hrole _).trans hr
    target_input := fun s hs => (h.target_input s hs).imp fun _ hr => (hrole _).trans hr
    captured_input := fun c hc => (hrole _).trans (h.captured_input c hc)
    outbox_aims := fun x hx => hp.aims (h.outbox_aims x hx)
    queue_aims := fun x hx => hp.aims (h.queue_aims x hx) }

theorem Consistent.renamePort (h : b.Consistent) (client : ClientId) (port : PortId)
    (name : String) : b.Evolves [] (b.renamePort client port name).2 := by
  unfold Bus.renamePort
  split
  · exact .refl h
  · refine h.mapPorts (fun p => ?_) fun p => ?_
    · by_cases hp : p.1 = port <;> simp [hp]
    · by_cases hp : p.1 = port <;> simp [hp]

end Bus

end PatchBay
