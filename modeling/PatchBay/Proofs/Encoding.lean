import PatchBay.Encoder
import PatchBay.Proofs.Grammar

/-!
# One event of the encoder

What `next` makes of each phrase at the front of a stream, whatever follows the phrase, and the
converse: where `next` takes an event there is a phrase. Of a SysEx it takes one piece at a time.
-/

namespace PatchBay

namespace Encoder

variable {capacity count : Nat} {mode after : Mode} {b s first : UInt8}
  {data rest bytes body : Bytes}

/-! ## Data bytes -/

theorem takeData_append (hlen : data.length = count) (hdata : ∀ b ∈ data, isStatus b = false) :
    takeData count (data ++ rest) = .ok data := by
  subst hlen
  have hfind : data.find? isStatus = none := by
    rw [List.find?_eq_none]
    exact fun b hb => by simp [hdata b hb]
  simp [takeData, hfind]

/-- The data bytes that are taken are the first ones. -/
theorem eq_append_of_takeData (h : takeData count bytes = .ok data) :
    ∃ rest, bytes = data ++ rest ∧ ∀ b ∈ data, isStatus b = false := by
  unfold takeData at h
  split at h
  · cases h
  split at h
  · cases h
  · rename_i hfind
    cases h
    refine ⟨bytes.drop count, (List.take_append_drop _ _).symm, fun b hb => ?_⟩
    simpa using List.find?_eq_none.mp hfind b hb

theorem channelDataCount_eq (h : isVoice s) : dataCount? s = some (channelDataCount s) := by
  have hall : ∀ n : Fin 256, isVoice (.ofFin n) = true →
      dataCount? (.ofFin n) = some (channelDataCount (.ofFin n)) := by decide +kernel
  exact hall s.toFin h

theorem systemDataCount_eq (hlow : Status.sysexStart < s) (hhigh : isRealtime s = false) :
    systemDataCount? s = dataCount? s := by
  have hall : ∀ n : Fin 256, Status.sysexStart < (.ofFin n) → isRealtime (.ofFin n) = false →
      systemDataCount? (.ofFin n) = dataCount? (.ofFin n) := by decide +kernel
  exact hall s.toFin hlow hhigh

/-! ## Events -/

theorem next_realtime (h : isRealtime b = true) :
    next capacity mode (b :: rest) = (.ok ⟨1, [b]⟩, mode) := by
  simp [next, h]

/-- A message of fixed length is an event of its own. -/
theorem next_message (hs : dataCount? s = some data.length) (hd : ∀ b ∈ data, isStatus b = false) :
    next capacity mode (s :: data ++ rest) =
      (.ok ⟨data.length + 1, s :: data⟩,
        if isRealtime s then mode else ⟨if isVoice s then some s else none, false⟩) := by
  have hstatus := isStatus_of_dataCount hs
  by_cases hr : isRealtime s = true
  · have hnone : data = [] := by
      rw [dataCount?, if_pos (.inl hr)] at hs
      exact List.length_eq_zero_iff.mp (Option.some.inj hs).symm
    subst hnone
    simp [next, hr]
  have hstart : s ≠ Status.sysexStart := by
    rintro rfl
    cases hs
  have hend : s ≠ Status.sysexEnd := by
    rintro rfl
    cases hs
  have hlow : ¬ s < Status.noteOff := by
    simp only [isStatus, Status.noteOff] at *
    grind
  by_cases hv : s < Status.sysexStart
  · have hvoice : isVoice s = true := by
      simp only [isVoice, isStatus, Status.noteOff] at *
      grind
    have hcount : data.length = channelDataCount s :=
      Option.some.inj (hs.symm.trans (channelDataCount_eq hvoice))
    simp [next, hr, hstart, hstatus, hend, hlow, hv, hvoice, takeData_append hcount hd]
  · have hvoice : isVoice s = false := by
      simp only [isVoice]
      grind
    have hcount : systemDataCount? s = some data.length := by
      rw [systemDataCount_eq (by grind) (by simpa using hr), hs]
    simp [next, hr, hstart, hstatus, hend, hlow, hv, hvoice, hcount, takeData_append rfl hd]

/-- Data bytes without a status byte are an event that starts with the running status. -/
theorem next_group (hrun : mode.running = some s) (hsx : mode.inSysex = false)
    (hvoice : isVoice s = true) (hs : dataCount? s = some data.length)
    (hd : ∀ b ∈ data, isStatus b = false) :
    next capacity mode (data ++ rest) = (.ok ⟨data.length, s :: data⟩, mode) := by
  obtain ⟨first, tail, rfl⟩ :=
    List.exists_cons_of_ne_nil (List.ne_nil_of_length_pos (dataCount_pos hvoice hs))
  have hfirst : isStatus first = false := hd first (List.mem_cons_self ..)
  have hr : isRealtime first = false := by
    cases h : isRealtime first with
    | false => rfl
    | true => rw [isStatus_of_isRealtime h] at hfirst; cases hfirst
  have hlow : first < Status.noteOff := by
    simp only [isStatus, Status.noteOff] at *
    grind
  have hstart : first ≠ Status.sysexStart := by
    rintro rfl
    cases hfirst
  have hend : first ≠ Status.sysexEnd := by
    rintro rfl
    cases hfirst
  have hcount : (first :: tail).length = channelDataCount s :=
    Option.some.inj (hs.symm.trans (channelDataCount_eq hvoice))
  have htake : takeData (channelDataCount s) (first :: tail ++ rest) = .ok (first :: tail) :=
    takeData_append hcount hd
  rw [List.cons_append] at htake
  simp [next, hr, hstart, hsx, hend, hlow, hrun, htake]

/-- The closing byte is an event of its own where it is the first of a piece. -/
theorem next_end (hsx : mode.inSysex = true) :
    next capacity mode (Status.sysexEnd :: rest) =
      (.ok ⟨1, [Status.sysexEnd]⟩, { mode with inSysex := false }) := by
  have hr : isRealtime Status.sysexEnd = false := rfl
  have hs : isStatus Status.sysexEnd = true := rfl
  have hne : Status.sysexEnd ≠ Status.sysexStart := by decide
  simp [next, hr, hs, hne, hsx]

/-! ## Pieces of a SysEx -/

/-- Whether a byte starts a piece of a SysEx: its first byte does, and data where it is open. -/
def Opens (inSysex : Bool) (first : UInt8) : Prop :=
  first = Status.sysexStart ∨ inSysex = true ∧ isStatus first = false

theorem next_piece (h : Opens mode.inSysex first) :
    next capacity mode (first :: rest) =
      (.ok ⟨(sysexRun (capacity - 1) rest).1 + 1,
          first :: rest.take (sysexRun (capacity - 1) rest).1⟩,
        { running := if first = Status.sysexStart then none else mode.running,
          inSysex := (sysexRun (capacity - 1) rest).2 }) := by
  have hr : isRealtime first = false := by
    rcases h with rfl | ⟨-, hdata⟩
    · rfl
    · cases h : isRealtime first with
      | false => rfl
      | true => rw [isStatus_of_isRealtime h] at hdata; cases hdata
  have hopen : first = Status.sysexStart ∨ (mode.inSysex = true ∧ ¬ isStatus first = true) := by
    simpa [Opens] using h
  rw [next, if_neg (by simp [hr]), if_pos hopen]

/-- A body byte does not end a piece that has room for it. -/
theorem sysexRun_cons (room : Nat) (h : isBody b = true) :
    sysexRun (room + 1) (b :: rest) = ((sysexRun room rest).1 + 1, (sysexRun room rest).2) := by
  have hend : b ≠ Status.sysexEnd := by
    rintro rfl
    cases h
  have hgo : (isStatus b && !isRealtime b) = false := by
    rw [← Bool.not_eq_true', Bool.not_and, Bool.not_not]
    exact h
  rw [sysexRun, if_neg hend, if_neg (by simp [hgo])]

/-- A piece stops inside the body of a SysEx, which stays open, or takes all that is left of it. -/
theorem sysexRun_tail (room : Nat) {closed : Bool} (hbody : ∀ b ∈ body, isBody b = true)
    (hrest : closed = false → Breaks rest) :
    (∃ k ≤ body.length, sysexRun room (sysexTail body closed ++ rest) = (k, true)) ∨
      (closed = true ∨ rest ≠ []) ∧
        sysexRun room (sysexTail body closed ++ rest) =
          ((sysexTail body closed).length, false) := by
  induction body generalizing room with
  | nil =>
    cases room with
    | zero => exact .inl ⟨0, Nat.le_refl _, rfl⟩
    | succ room =>
      cases closed with
      | true => exact .inr ⟨.inl rfl, by simp [sysexTail, sysexRun]⟩
      | false =>
        cases rest with
        | nil => exact .inl ⟨0, Nat.le_refl _, rfl⟩
        | cons b rest =>
          obtain ⟨hs, hr, hne⟩ := hrest rfl b rfl
          exact .inr ⟨.inr (List.cons_ne_nil _ _), by simp [sysexTail, sysexRun, hs, hr, hne]⟩
  | cons b body ih =>
    cases room with
    | zero => exact .inl ⟨0, Nat.zero_le _, rfl⟩
    | succ room =>
      have hcons : sysexTail (b :: body) closed ++ rest =
          b :: (sysexTail body closed ++ rest) := rfl
      rw [hcons, sysexRun_cons room (hbody b (List.mem_cons_self ..))]
      rcases ih room (fun b hb => hbody b (List.mem_cons_of_mem _ hb)) with
        ⟨k, hk, hrun⟩ | ⟨hover, hrun⟩
      · exact .inl ⟨k + 1, Nat.succ_le_succ hk, by rw [hrun]⟩
      · exact .inr ⟨hover, by rw [hrun]; rfl⟩

/-- **One piece of a SysEx.** It stops inside the body, and the SysEx stays open, or it takes all
that is left of the SysEx, which is possible only where something shows its end. -/
theorem next_sysex (capacity : Nat) {closed : Bool} (hopen : Opens mode.inSysex first)
    (hrun : first = Status.sysexStart ∨ mode.running = none)
    (hbody : ∀ b ∈ body, isBody b = true) (hrest : closed = false → Breaks rest) :
    (∃ k ≤ body.length, k ≤ capacity - 1 ∧
      next capacity mode (first :: sysexTail body closed ++ rest) =
        (.ok ⟨k + 1, first :: body.take k⟩, ⟨none, true⟩)) ∨
      (closed = true ∨ rest ≠ []) ∧ (sysexTail body closed).length ≤ capacity - 1 ∧
        next capacity mode (first :: sysexTail body closed ++ rest) =
          (.ok ⟨(sysexTail body closed).length + 1, first :: sysexTail body closed⟩,
            ⟨none, false⟩) := by
  have hmode : (if first = Status.sysexStart then none else mode.running) = none := by
    rcases hrun with rfl | hrun
    · rfl
    · simp [hrun]
  have hnext : next capacity mode (first :: (sysexTail body closed ++ rest)) = _ :=
    next_piece hopen
  have hroom := sysexRun_le_room (capacity - 1) (sysexTail body closed ++ rest)
  rw [hmode] at hnext
  rcases sysexRun_tail (capacity - 1) hbody hrest with ⟨k, hk, hrun⟩ | ⟨hover, hrun⟩
  · rw [hrun] at hnext hroom
    have htake : (sysexTail body closed ++ rest).take k = body.take k := by
      rw [sysexTail_split k, List.append_assoc, List.take_left' (List.length_take_of_le hk)]
    exact .inl ⟨k, hk, hroom, by rw [List.cons_append, hnext, htake]⟩
  · rw [hrun] at hnext hroom
    exact .inr ⟨hover, hroom, by rw [List.cons_append, hnext, List.take_left]⟩

/-! ## Where there is an event there is a phrase -/

/-- The mode fits the grammar's running status in front of `rest`. A SysEx that is still open there
is one that `rest` breaks off. -/
structure Fits (running : Option UInt8) (rest : Bytes) (mode : Mode) : Prop where
  /-- Running status is the same. -/
  running_eq : mode.running = running
  /-- It is that of a channel message. -/
  voice : RunsVoice running
  /-- What follows an open SysEx does not belong to it. -/
  breaks : mode.inSysex = true → running = none ∧ Breaks rest

theorem Fits.of_closed {running : Option UInt8} (hr : RunsVoice running) :
    Fits running rest ⟨running, false⟩ := ⟨rfl, hr, fun h => by cases h⟩

theorem Fits.of_breaks (inSysex : Bool) (h : Breaks rest) : Fits none rest ⟨none, inSysex⟩ :=
  ⟨rfl, runsVoice_none, fun _ => ⟨rfl, h⟩⟩

/-- Where a phrase starts with a byte that may stand in a SysEx, none is open. -/
theorem Fits.not_open {running : Option UInt8} (hm : Fits running (first :: rest) mode)
    (hf : isBody first = true) : mode.inSysex = false := by
  cases hsx : mode.inSysex with
  | false => rfl
  | true =>
    obtain ⟨hs, hr, -⟩ := (hm.breaks hsx).2 first rfl
    rw [isBody, hs, hr] at hf
    cases hf

/-- An event can only be taken where a phrase stands. -/
theorem phrase_of_next {running : Option UInt8} {event : Event} (hm : Fits running bytes mode)
    (h : next capacity mode bytes = (.ok event, after)) :
    ∃ p rest, bytes = Phrase.bytes p ++ rest ∧ p.Formed running rest := by
  cases bytes with
  | nil => cases h
  | cons first rest =>
    -- channel and system messages end alike, behind different guards
    have hmessage : ∀ {count data}, dataCount? first = some count →
        takeData count rest = .ok data →
        ∃ p tail, first :: rest = Phrase.bytes p ++ tail ∧ p.Formed running tail := by
      intro count data hcount htake
      obtain ⟨hlen, -⟩ := takeData_length htake
      obtain ⟨tail, rfl, hd⟩ := eq_append_of_takeData htake
      exact ⟨.message first data, tail, rfl, by rw [hcount, hlen], hd⟩
    rw [next] at h
    split at h
    · rename_i hr
      exact ⟨.message first [], rest, rfl, by simp [dataCount?, hr], by simp⟩
    split at h
    · rename_i hr hopen
      have hstart : first = Status.sysexStart := by
        rcases hopen with hopen | ⟨hsx, hf⟩
        · exact hopen
        · rw [hm.not_open (by simp [isBody, hf])] at hsx
          cases hsx
      subst hstart
      obtain ⟨body, closed, tail, rfl, hbody, hrest⟩ := exists_sysexTail rest
      exact ⟨.sysex body closed, tail, rfl, hbody, hrest⟩
    split at h
    · rename_i hend
      subst hend
      split at h
      · rename_i hsx
        exact absurd rfl ((hm.breaks hsx).2 _ rfl).2.2
      · cases h
    split at h
    · split at h
      · cases h
      · rename_i status hrun
        split at h
        · cases h
        · rename_i data htake
          have hs := hm.running_eq.symm.trans hrun
          obtain ⟨hlen, -⟩ := takeData_length htake
          obtain ⟨tail, heq, hd⟩ := eq_append_of_takeData htake
          refine ⟨.group status data, tail, heq, hs, ?_, hd⟩
          rw [hlen, channelDataCount_eq (hm.voice status hs)]
    split at h
    · rename_i hlow hhigh
      split at h
      · cases h
      · rename_i data htake
        refine hmessage (channelDataCount_eq ?_) htake
        simp only [isVoice]
        grind
    · rename_i hr hopen _ _ hhigh
      split at h
      · cases h
      · rename_i count hcount
        split at h
        · cases h
        · rename_i data htake
          refine hmessage ?_ htake
          rw [← systemDataCount_eq ?_ (by simpa using hr), hcount]
          grind

end Encoder

end PatchBay
