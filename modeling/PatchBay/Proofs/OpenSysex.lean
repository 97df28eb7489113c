import Mathlib.Data.List.Induction
import Mathlib.Tactic.ByContra
import PatchBay.Proofs.Encoding
import PatchBay.Proofs.Hearing

/-!
# Whether a SysEx is open

An encoder takes a SysEx for ended at any status byte but a real-time one. An assembler sees events
one by one, and takes a SysEx for ended at its closing byte alone. Either tells from the latest byte
of some kind whether a SysEx is open, and they tell the same unless the last SysEx was broken off.
-/

namespace PatchBay

open Cursor (isBody_of_data)

/-! ## The latest byte of some kind -/

/-- Whether the latest byte that `p` picks opens a SysEx; where `p` picks none, what was so
before. -/
def latestOpens (p : UInt8 → Bool) (before : Bool) (bytes : Bytes) : Bool :=
  bytes.foldl (fun o b => if p b then b == Status.sysexStart else o) before

/-- What an encoder takes for an end or a beginning: any status byte that is not real-time. -/
def isCommon (b : UInt8) : Bool := isStatus b && !isRealtime b

/-- What begins or closes a SysEx. -/
def isBound (b : UInt8) : Bool := b == Status.sysexStart || b == Status.sysexEnd

/-- The last SysEx in a stream has not been closed, and a status byte that is not real-time stands
behind its beginning. -/
def BrokenOff (bytes : Bytes) : Prop :=
  ∃ before after, bytes = before ++ Status.sysexStart :: after ∧
    (∀ b ∈ after, isBound b = false) ∧ ∃ b ∈ after, isCommon b = true

variable {p : UInt8 → Bool} {o : Bool} {b first : UInt8} {bytes rest : Bytes}

@[simp] theorem latestOpens_nil (p : UInt8 → Bool) (o : Bool) : latestOpens p o [] = o := rfl

@[simp] theorem latestOpens_cons (p : UInt8 → Bool) (o : Bool) (b : UInt8) (bytes : Bytes) :
    latestOpens p o (b :: bytes) =
      latestOpens p (if p b then b == Status.sysexStart else o) bytes := rfl

theorem latestOpens_append (p : UInt8 → Bool) (o : Bool) (first second : Bytes) :
    latestOpens p o (first ++ second) = latestOpens p (latestOpens p o first) second :=
  List.foldl_append

theorem latestOpens_none (h : ∀ b ∈ bytes, p b = false) : latestOpens p o bytes = o := by
  induction bytes with
  | nil => rfl
  | cons b bytes ih =>
    rw [latestOpens_cons, h b List.mem_cons_self, if_neg Bool.false_ne_true]
    exact ih fun x hx => h x (List.mem_cons_of_mem _ hx)

theorem latestOpens_other (h : ∀ b ∈ bytes, b ≠ Status.sysexStart) (hp : ∃ b ∈ bytes, p b = true) :
    latestOpens p o bytes = false := by
  induction bytes generalizing o with
  | nil =>
    obtain ⟨b, hb, -⟩ := hp
    cases hb
  | cons b bytes ih =>
    have hb : (b == Status.sysexStart) = false := beq_eq_false_iff_ne.mpr (h b List.mem_cons_self)
    have hmore : ∀ x ∈ bytes, x ≠ Status.sysexStart := fun x hx => h x (List.mem_cons_of_mem _ hx)
    rw [latestOpens_cons, hb]
    by_cases hlater : ∃ x ∈ bytes, p x = true
    · exact ih hmore hlater
    · have hnone : ∀ x ∈ bytes, p x = false := fun x hx =>
        Bool.eq_false_iff.mpr fun hx' => hlater ⟨x, hx, hx'⟩
      obtain ⟨x, hx, hpx⟩ := hp
      rcases List.mem_cons.mp hx with rfl | hx
      · rw [latestOpens_none hnone, if_pos hpx]
      · exact absurd ⟨x, hx, hpx⟩ hlater

/-- A SysEx is open if nothing that would end it stands behind its beginning. -/
theorem latestOpens_iff (hp : p Status.sysexStart = true) :
    latestOpens p false bytes = true ↔
      ∃ before after, bytes = before ++ Status.sysexStart :: after ∧ ∀ b ∈ after, p b = false := by
  constructor
  · intro h
    induction bytes using List.reverseRecOn with
    | nil => cases h
    | append_singleton bytes b ih =>
      rw [latestOpens_append, latestOpens_cons, latestOpens_nil] at h
      split at h
      · rw [eq_of_beq h]
        exact ⟨bytes, [], rfl, nofun⟩
      · rename_i hb
        obtain ⟨before, after, rfl, hafter⟩ := ih h
        refine ⟨before, after ++ [b], by rw [List.append_assoc]; rfl, fun x hx => ?_⟩
        rcases List.mem_append.mp hx with hx | hx
        · exact hafter x hx
        · rw [List.mem_singleton.mp hx]
          exact Bool.eq_false_iff.mpr hb
  · rintro ⟨before, after, rfl, hafter⟩
    rw [latestOpens_append, latestOpens_cons, if_pos hp, latestOpens_none hafter]
    rfl

theorem isCommon_of_isBound (h : isBound b = true) : isCommon b = true := by
  rcases Bool.or_eq_true_iff.mp h with h | h
  · rw [eq_of_beq h]
    rfl
  · rw [eq_of_beq h]
    rfl

theorem isCommon_of_isBody (h : isBody b = true) : isCommon b = false := by
  rw [isCommon, ← Bool.not_eq_true', Bool.not_and, Bool.not_not]
  exact h

theorem isBound_of_isBody (h : isBody b = true) : isBound b = false := by
  rw [Bool.eq_false_iff]
  intro hbound
  have hcommon := isCommon_of_isBound hbound
  rw [isCommon_of_isBody h] at hcommon
  cases hcommon

theorem isBound_of_dataCount {n : Nat} (h : dataCount? b = some n) : isBound b = false := by
  rw [Bool.eq_false_iff]
  intro hbound
  rcases Bool.or_eq_true_iff.mp hbound with hb | hb
  · rw [eq_of_beq hb] at h
    cases h
  · rw [eq_of_beq hb] at h
    cases h

/-- What is open by the stricter rule is open by the other one, and the two differ exactly where the
last SysEx was broken off. -/
theorem latestOpens_brokenOff (bytes : Bytes) :
    (latestOpens isCommon false bytes = true → latestOpens isBound false bytes = true) ∧
      (latestOpens isBound false bytes ≠ latestOpens isCommon false bytes ↔ BrokenOff bytes) := by
  have hmono : latestOpens isCommon false bytes = true →
      latestOpens isBound false bytes = true := by
    rw [latestOpens_iff rfl, latestOpens_iff rfl]
    rintro ⟨before, after, heq, hafter⟩
    refine ⟨before, after, heq, fun b hb => ?_⟩
    rw [Bool.eq_false_iff]
    intro hbound
    have hcommon := isCommon_of_isBound hbound
    rw [hafter b hb] at hcommon
    cases hcommon
  refine ⟨hmono, fun hne => ?_, ?_⟩
  · obtain ⟨hbound, hcommon⟩ : latestOpens isBound false bytes = true ∧
        latestOpens isCommon false bytes = false := by
      cases hc : latestOpens isCommon false bytes with
      | true => exact absurd ((hmono hc).trans hc.symm) hne
      | false =>
        rw [hc] at hne
        exact ⟨(Bool.not_eq_false _).mp hne, rfl⟩
    obtain ⟨before, after, heq, hafter⟩ := (latestOpens_iff rfl).mp hbound
    refine ⟨before, after, heq, hafter, ?_⟩
    by_contra hnone
    have hopen : latestOpens isCommon false bytes = true := by
      refine (latestOpens_iff rfl).mpr ⟨before, after, heq, fun b hb => ?_⟩
      exact Bool.eq_false_iff.mpr fun hcommon => hnone ⟨b, hb, hcommon⟩
    rw [hcommon] at hopen
    cases hopen
  · rintro ⟨before, after, rfl, hafter, hbroken⟩
    have hbound : latestOpens isBound false (before ++ Status.sysexStart :: after) = true :=
      (latestOpens_iff rfl).mpr ⟨before, after, rfl, hafter⟩
    have hother : ∀ b ∈ after, b ≠ Status.sysexStart := by
      rintro b hb rfl
      cases hafter _ hb
    rw [hbound, latestOpens_append, latestOpens_cons, latestOpens_other hother hbroken]
    exact Bool.true_eq_false.mp

namespace Encoder

variable {capacity : Nat} {mode after : Mode} {event : Event} {piece : Bytes}

/-! ## One event -/

/-- What an event is made of: `piece` is taken from the stream, and `rest` is left of it. -/
inductive Takes (mode : Mode) (rest : Bytes) : Bytes → Bytes → Mode → Prop where
  | realtime {b : UInt8} : isRealtime b = true → Takes mode rest [b] [b] mode
  | message {s : UInt8} {data : Bytes} (running : Option UInt8) :
    dataCount? s = some data.length → (∀ b ∈ data, isStatus b = false) → isRealtime s = false →
    Takes mode rest (s :: data) (s :: data) ⟨running, false⟩
  | group {s : UInt8} {data : Bytes} : dataCount? s = some data.length →
    (∀ b ∈ data, isStatus b = false) → isRealtime s = false → mode.inSysex = false →
    Takes mode rest data (s :: data) mode
  | closing : mode.inSysex = true →
    Takes mode rest [Status.sysexEnd] [Status.sysexEnd] { mode with inSysex := false }
  | piece {first : UInt8} {body : Bytes} (running : Option UInt8) (closed : Bool) :
    Opens mode.inSysex first → (∀ b ∈ body, isBody b = true) →
    Takes mode rest (first :: sysexTail body closed) (first :: sysexTail body closed)
      ⟨running, !closed⟩
  /-- A status byte shows that the SysEx is broken off. -/
  | broken {first : UInt8} {body : Bytes} (running : Option UInt8) :
    Opens mode.inSysex first → (∀ b ∈ body, isBody b = true) → rest ≠ [] → Breaks rest →
    Takes mode rest (first :: body) (first :: body) ⟨running, false⟩

/-- A piece of a SysEx is a run of body bytes, with or without the closing byte. -/
theorem takes_piece (h : Opens mode.inSysex first) (rest : Bytes) (room : Nat)
    (running : Option UInt8) :
    ∃ piece left, rest = piece ++ left ∧ piece.length = (sysexRun room rest).1 ∧
      Takes mode left (first :: piece) (first :: rest.take (sysexRun room rest).1)
        ⟨running, (sysexRun room rest).2⟩ := by
  obtain ⟨body, closed, tail, rfl, hbody, hbreaks⟩ := exists_sysexTail rest
  rcases sysexRun_tail room hbody hbreaks with ⟨k, hk, hrun⟩ | ⟨hover, hrun⟩
  · rw [hrun]
    have hsplit : sysexTail body closed ++ tail =
        body.take k ++ (sysexTail (body.drop k) closed ++ tail) := by
      rw [← List.append_assoc, ← sysexTail_split]
    have hlen : (body.take k).length = k := List.length_take_of_le hk
    refine ⟨body.take k, sysexTail (body.drop k) closed ++ tail, hsplit, hlen, ?_⟩
    have htake : (sysexTail body closed ++ tail).take k = body.take k := by
      rw [hsplit, List.take_left' hlen]
    have hpiece : sysexTail (body.take k) false = body.take k := List.append_nil _
    dsimp only
    rw [htake]
    have hbody' : ∀ b ∈ body.take k, isBody b = true := fun b hb =>
      hbody b (List.mem_of_mem_take hb)
    have htaken : Takes mode (sysexTail (body.drop k) closed ++ tail) _ _ ⟨running, !false⟩ :=
      .piece running false h hbody'
    rwa [hpiece] at htaken
  · rw [hrun]
    refine ⟨sysexTail body closed, tail, rfl, rfl, ?_⟩
    dsimp only
    rw [List.take_left]
    cases closed with
    | true => exact .piece running true h hbody
    | false =>
      have hpiece : sysexTail body false = body := List.append_nil _
      rw [hpiece]
      exact .broken running h hbody (hover.resolve_left nofun) (hbreaks rfl)

theorem takes_message {status : UInt8} {count : Nat} {data : Bytes}
    (hcount : dataCount? status = some count) (hrt : isRealtime status = false)
    (htake : takeData count bytes = .ok data) (running : Option UInt8) :
    ∃ left, bytes = data ++ left ∧
      Takes mode left (status :: data) (status :: data) ⟨running, false⟩ := by
  obtain ⟨hlen, -⟩ := takeData_length htake
  obtain ⟨left, rfl, hdata⟩ := eq_append_of_takeData htake
  refine ⟨left, rfl, .message running ?_ hdata hrt⟩
  rw [hcount, hlen]

theorem takes_group {status : UInt8} {data : Bytes} (hvoice : isVoice status = true)
    (hshut : mode.inSysex = false)
    (htake : takeData (channelDataCount status) bytes = .ok data) :
    ∃ left, bytes = data ++ left ∧ Takes mode left data (status :: data) mode := by
  obtain ⟨hlen, -⟩ := takeData_length htake
  obtain ⟨left, rfl, hdata⟩ := eq_append_of_takeData htake
  refine ⟨left, rfl, .group ?_ hdata (not_isRealtime_of_isVoice hvoice) hshut⟩
  rw [hlen, channelDataCount_eq hvoice]

/-- Whatever event is taken is one of these. -/
theorem next_takes (hr : RunsVoice mode.running)
    (h : next capacity mode bytes = (.ok event, after)) :
    ∃ piece rest, bytes = piece ++ rest ∧ event.consumed = piece.length ∧
      Takes mode rest piece event.bytes after ∧ RunsVoice after.running := by
  cases bytes with
  | nil => cases h
  | cons first rest =>
    rw [next] at h
    split at h
    · rename_i hrt
      cases h
      exact ⟨[first], rest, rfl, rfl, .realtime hrt, hr⟩
    rename_i hrt
    have hrt : isRealtime first = false := Bool.eq_false_iff.mpr hrt
    split at h
    · rename_i hopen
      cases h
      have hopens : Opens mode.inSysex first := by simpa [Opens] using hopen
      obtain ⟨piece, left, hrest, hlen, htaken⟩ := takes_piece hopens rest (capacity - 1)
        (if first = Status.sysexStart then none else mode.running)
      refine ⟨first :: piece, left, congrArg (first :: ·) hrest, ?_, htaken, ?_⟩
      · dsimp only
        rw [List.length_cons, hlen]
      · dsimp only
        split
        · exact runsVoice_none
        · exact hr
    rename_i hopen
    split at h
    · rename_i hend
      subst hend
      split at h
      · rename_i hsx
        cases h
        exact ⟨[Status.sysexEnd], rest, rfl, rfl, .closing hsx, hr⟩
      · cases h
    split at h
    · -- a data byte, which stands for a message only where no SysEx is open
      rename_i hlow
      split at h
      · cases h
      rename_i status hrun
      split at h
      · cases h
      rename_i data htake
      cases h
      have hshut : mode.inSysex = false := by
        rw [Bool.eq_false_iff]
        intro hsx
        exact hopen (.inr ⟨hsx, by simpa [isStatus, Status.noteOff] using hlow⟩)
      obtain ⟨left, hleft, htaken⟩ := takes_group (hr status hrun) hshut htake
      exact ⟨data, left, hleft, rfl, htaken, hr⟩
    rename_i hlow
    split at h
    · rename_i hhigh
      split at h
      · cases h
      rename_i data htake
      cases h
      have hvoice : isVoice first = true := by
        simp only [isVoice]
        grind
      obtain ⟨left, rfl, htaken⟩ :=
        takes_message (channelDataCount_eq hvoice) hrt htake (some first)
      refine ⟨first :: data, left, rfl, rfl, htaken, ?_⟩
      rintro s ⟨⟩
      exact hvoice
    · rename_i hhigh
      split at h
      · cases h
      rename_i count hcount
      split at h
      · cases h
      rename_i data htake
      cases h
      have hdataCount : dataCount? first = some count := by
        rw [← systemDataCount_eq ?_ hrt, hcount]
        grind
      obtain ⟨left, rfl, htaken⟩ := takes_message hdataCount hrt htake none
      exact ⟨first :: data, left, rfl, rfl, htaken, runsVoice_none⟩

theorem latestOpens_body {body : Bytes} (h : ∀ b ∈ body, isBody b = true) (o : Bool) :
    latestOpens isCommon o body = o ∧ latestOpens isBound o body = o :=
  ⟨latestOpens_none fun b hb => isCommon_of_isBody (h b hb),
    latestOpens_none fun b hb => isBound_of_isBody (h b hb)⟩

theorem latestOpens_data {data : Bytes} (h : ∀ b ∈ data, isStatus b = false) (o : Bool) :
    latestOpens isCommon o data = o ∧ latestOpens isBound o data = o :=
  latestOpens_body (fun b hb => isBody_of_data (h b hb)) o

theorem latestOpens_opens {inSysex : Bool} (h : Opens inSysex first) :
    latestOpens isCommon inSysex [first] = true := by
  rcases h with rfl | ⟨rfl, hdata⟩
  · rfl
  · rw [latestOpens_none]
    intro b hb
    rw [List.mem_singleton.mp hb]
    exact isCommon_of_isBody (isBody_of_data hdata)

/-- Behind a status byte that breaks a SysEx off it makes no difference whether one was open. -/
theorem latestOpens_breaks (hne : rest ≠ []) (h : Breaks rest) (o o' : Bool) :
    latestOpens isCommon o rest = latestOpens isCommon o' rest := by
  obtain ⟨b, more, rfl⟩ := List.exists_cons_of_ne_nil hne
  obtain ⟨hs, hrt, -⟩ := h b rfl
  have hcommon : isCommon b = true := by
    rw [isCommon, hs, hrt]
    rfl
  rw [latestOpens_cons, latestOpens_cons, if_pos hcommon, if_pos hcommon]

/-- The encoder's flag, in front of the rest of the stream, tells what it told before the event. A
piece that is broken off resets it already. -/
theorem Takes.latestOpens_isCommon {taken : Bytes} (h : Takes mode rest piece taken after) :
    latestOpens isCommon after.inSysex rest =
      latestOpens isCommon mode.inSysex (piece ++ rest) := by
  rw [latestOpens_append]
  cases h with
  | realtime hrt =>
    rename_i b
    have hbody : isBody b = true := by
      rw [isBody, hrt, Bool.or_true]
    rw [latestOpens_cons, isCommon_of_isBody hbody]
    rfl
  | message running hcount hdata hrt =>
    rename_i s data
    have hcommon : isCommon s = true := by
      rw [isCommon, isStatus_of_dataCount hcount, hrt]
      rfl
    have hstart : (s == Status.sysexStart) = false := by
      rw [beq_eq_false_iff_ne]
      rintro rfl
      cases hcount
    rw [latestOpens_cons, if_pos hcommon, hstart, (latestOpens_data hdata false).1]
  | group hcount hdata hrt hshut => rw [(latestOpens_data hdata _).1]
  | closing hsx => rfl
  | piece running closed hopens hbody =>
    rename_i first body
    have hopen := latestOpens_opens hopens
    rw [← List.singleton_append, latestOpens_append, hopen, sysexTail, latestOpens_append,
      (latestOpens_body hbody true).1]
    cases closed <;> rfl
  | broken running hopens hbody hne hbreaks => exact latestOpens_breaks hne hbreaks _ _

end Encoder

namespace Filter

variable {f : Filter} {c : Bool} {last : UInt8}

/-- A fragment that neither begins nor closes a SysEx leaves it as it is. -/
theorem apply_quiet (hfirst : isBound first = false) (hrest : ∀ b ∈ rest, isStatus b = false) :
    (f.apply c (first :: rest)).2 = c := by
  have hne : first ≠ Status.sysexStart := by
    rintro rfl
    cases hfirst
  cases hk : (classify c first).isSysex with
  | false =>
    refine apply_continuing_of_not_isSysex ?_
    rw [apply_cons]
    exact hk
  | true =>
    have hc : c = true := by
      cases c with
      | true => rfl
      | false =>
        have hstart : (f.apply false (first :: rest)).1.kind = .sysexStart := by
          refine kind_of_isSysex ?_
          rw [apply_cons]
          exact hk
        have hhead := (apply_kind_sysexStart f false (first :: rest)).mp hstart
        exact absurd (Option.some.inj hhead) hne
    have hend : first ≠ Status.sysexEnd := by
      rintro rfl
      cases hfirst
    obtain ⟨last, hlast, hopen⟩ := exists_last hrest hend
    rw [apply_sysex hk hlast, hc]
    exact bne_iff_ne.mpr hopen

/-- A piece of a SysEx is open behind its last byte unless that closes it. -/
theorem apply_piece {inSysex : Bool} (h : Encoder.Opens inSysex first)
    (hc : inSysex = true → c = true) (hlast : (first :: rest).getLast? = some last) :
    (f.apply c (first :: rest)).2 = (last != Status.sysexEnd) := by
  have hk : (classify c first).isSysex = true := by
    rcases h with rfl | ⟨hsx, hdata⟩
    · rw [classify_eq_sysexStart.mpr rfl]
      rfl
    · rw [hc hsx, classify_inside (.inl hdata)]
      rfl
  rw [apply_sysex hk hlast]

end Filter

namespace Encoder

variable {mode after : Mode} {piece taken : Bytes} {c : Bool}

theorem Opens.getLast_ne {inSysex : Bool} {first : UInt8} {body : Bytes} (h : Opens inSysex first)
    (hbody : ∀ b ∈ body, isBody b = true) :
    ∃ last, (first :: body).getLast? = some last ∧ last ≠ Status.sysexEnd := by
  refine ⟨_, List.getLast?_eq_some_getLast (List.cons_ne_nil first body), fun hlast => ?_⟩
  have hmem := List.getLast_mem (List.cons_ne_nil first body)
  rw [hlast] at hmem
  rcases List.mem_cons.mp hmem with heq | hmem
  · rcases h with rfl | ⟨-, hdata⟩
    · cases heq
    · rw [← heq] at hdata
      cases hdata
  · cases hbody _ hmem

theorem Opens.latestOpens_isBound {inSysex : Bool} {first : UInt8} (h : Opens inSysex first)
    (hc : inSysex = true → c = true) : latestOpens isBound c [first] = true := by
  rcases h with rfl | ⟨hsx, hdata⟩
  · rfl
  · rw [latestOpens_none, hc hsx]
    intro b hb
    rw [List.mem_singleton.mp hb]
    exact isBound_of_isBody (isBody_of_data hdata)

/-- An assembler that takes a SysEx for open wherever the encoder does goes on to do so, and tells
from the latest byte that begins or closes one. -/
theorem Takes.latestOpens_isBound (h : Takes mode rest piece taken after)
    (f : Filter) (hc : mode.inSysex = true → c = true) :
    (f.apply c taken).2 = latestOpens isBound c piece ∧
      (after.inSysex = true → (f.apply c taken).2 = true) := by
  -- a piece that ends in its body leaves the SysEx open for the assembler
  have hunclosed : ∀ {first body}, Opens mode.inSysex first → (∀ b ∈ body, isBody b = true) →
      (f.apply c (first :: body)).2 = true ∧ latestOpens isBound c (first :: body) = true := by
    intro first body hopens hbody
    obtain ⟨last, hlast, hne⟩ := hopens.getLast_ne hbody
    rw [Filter.apply_piece hopens hc hlast, ← List.singleton_append, latestOpens_append,
      hopens.latestOpens_isBound hc, (latestOpens_body hbody true).2]
    exact ⟨bne_iff_ne.mpr hne, rfl⟩
  cases h with
  | realtime hrt =>
    rename_i b
    have hbound : isBound b = false := by
      refine isBound_of_isBody ?_
      rw [isBody, hrt, Bool.or_true]
    rw [Filter.apply_quiet hbound fun x hx => absurd hx List.not_mem_nil, latestOpens_none]
    · exact ⟨rfl, hc⟩
    · intro x hx
      rw [List.mem_singleton.mp hx]
      exact hbound
  | message running hcount hdata hrt =>
    have hbound := isBound_of_dataCount hcount
    rw [Filter.apply_quiet hbound hdata, latestOpens_cons, hbound, (latestOpens_data hdata _).2]
    exact ⟨rfl, fun hopen => absurd hopen Bool.false_ne_true⟩
  | group hcount hdata hrt hshut =>
    rw [Filter.apply_quiet (isBound_of_dataCount hcount) hdata, (latestOpens_data hdata _).2]
    exact ⟨rfl, hc⟩
  | closing hsx =>
    have hk : (Filter.classify c Status.sysexEnd).isSysex = true := by
      rw [hc hsx, Filter.classify_inside (.inr rfl)]
      rfl
    rw [Filter.apply_sysex hk rfl]
    exact ⟨rfl, fun hopen => absurd hopen Bool.false_ne_true⟩
  | piece running closed hopens hbody =>
    rename_i first body
    cases closed with
    | false =>
      have hpiece : sysexTail body false = body := List.append_nil _
      obtain ⟨happly, hlatest⟩ := hunclosed hopens hbody
      rw [hpiece, happly, hlatest]
      exact ⟨rfl, fun _ => rfl⟩
    | true =>
      have hlast : (first :: sysexTail body true).getLast? = some Status.sysexEnd := by
        rw [sysexTail, if_pos rfl, ← List.cons_append, List.getLast?_concat]
      rw [Filter.apply_piece hopens hc hlast, sysexTail, if_pos rfl, ← List.cons_append,
        latestOpens_append]
      exact ⟨rfl, fun hopen => absurd hopen Bool.false_ne_true⟩
  | broken running hopens hbody hne hbreaks =>
    obtain ⟨happly, hlatest⟩ := hunclosed hopens hbody
    rw [happly, hlatest]
    exact ⟨rfl, fun hopen => absurd hopen Bool.false_ne_true⟩

end Encoder

end PatchBay
