import PatchBay.Byte

/-!
# The grammar of byte streams

A byte stream is a sequence of *phrases*: messages of fixed length, channel messages that leave out
their status byte because it is in force as running status, and SysEx messages, which a status byte
or the end of the stream may break off. What may stand in a stream depends on the running status
before it, and on what follows only where a SysEx is broken off.
-/

namespace PatchBay

/-! ## Classes of bytes -/

/-- Whether a byte is the status byte of a channel message. -/
def isVoice (b : UInt8) : Bool := Status.noteOff ≤ b && b < Status.sysexStart

/-- Whether a byte may stand inside a SysEx: data, or a real-time message. -/
def isBody (b : UInt8) : Bool := !isStatus b || isRealtime b

/-- The number of data bytes in a message of fixed length with this status byte. -/
def dataCount? (status : UInt8) : Option Nat :=
  if isRealtime status ∨ status = Status.tuneRequest then some 0
  else if status = Status.timeCode ∨ status = Status.songSelect then some 1
  else if status = Status.songPosition then some 2
  else if Status.programChange ≤ status ∧ status < Status.pitchBend then some 1
  else if isVoice status then some 2
  else none

theorem isStatus_of_isVoice {b : UInt8} (h : isVoice b) : isStatus b = true := by
  simp only [isVoice, isStatus, Status.noteOff, Status.sysexStart] at *
  grind

theorem not_isRealtime_of_isVoice {b : UInt8} (h : isVoice b) : isRealtime b = false := by
  simp only [isVoice, isRealtime, Status.noteOff, Status.sysexStart, Status.timingClock] at *
  grind

theorem isStatus_of_dataCount {s : UInt8} {n : Nat} (h : dataCount? s = some n) :
    isStatus s = true := by
  unfold dataCount? at h
  split at h
  · rename_i hs
    rcases hs with hs | rfl
    · exact isStatus_of_isRealtime hs
    · rfl
  split at h
  · rename_i hs
    rcases hs with rfl | rfl <;> rfl
  split at h
  · rename_i hs
    subst hs
    rfl
  split at h
  · rename_i hs
    simp only [isStatus, Status.programChange, Status.pitchBend] at *
    grind
  split at h
  · exact isStatus_of_isVoice ‹_›
  · cases h

theorem dataCount_pos {s : UInt8} {n : Nat} (hs : isVoice s) (h : dataCount? s = some n) :
    0 < n := by
  unfold dataCount? at h
  split at h
  · rename_i hr
    rcases hr with hr | rfl
    · rw [not_isRealtime_of_isVoice hs] at hr
      cases hr
    · cases hs
  split at h
  · cases h
    decide
  split at h
  · cases h
    decide
  split at h
  · cases h
    decide
  · cases h
    decide

/-! ## Phrases -/

/-- A phrase of a byte stream. -/
inductive Phrase where
  /-- A message of fixed length. -/
  | message (status : UInt8) (data : Bytes)
  /-- The data bytes of a channel message whose status byte is in force already. -/
  | group (status : UInt8) (data : Bytes)
  /-- A SysEx, closed or broken off, with the bytes between its first and its closing byte. -/
  | sysex (body : Bytes) (closed : Bool)
deriving Repr, DecidableEq

/-- What follows the first byte of a SysEx, with its closing byte if it has one. -/
def sysexTail (body : Bytes) (closed : Bool) : Bytes :=
  body ++ if closed then [Status.sysexEnd] else []

theorem sysexTail_split (k : Nat) {body : Bytes} {closed : Bool} :
    sysexTail body closed = body.take k ++ sysexTail (body.drop k) closed := by
  rw [sysexTail, sysexTail, ← List.append_assoc, List.take_append_drop]

/-- Whether what follows breaks a SysEx off: nothing does, or a status byte that is neither
real-time nor the closing byte. -/
def Breaks (rest : Bytes) : Prop :=
  ∀ b, rest.head? = some b → isStatus b = true ∧ isRealtime b = false ∧ b ≠ Status.sysexEnd

/-- A SysEx that was begun can always be read on. -/
theorem exists_sysexTail (bytes : Bytes) : ∃ body closed rest,
    bytes = sysexTail body closed ++ rest ∧ (∀ b ∈ body, isBody b = true) ∧
      (closed = false → Breaks rest) := by
  induction bytes with
  | nil => exact ⟨[], false, [], rfl, by simp, fun _ b hb => by cases hb⟩
  | cons b bytes ih =>
    by_cases hend : b = Status.sysexEnd
    · subst hend
      exact ⟨[], true, bytes, rfl, by simp, by simp⟩
    by_cases hb : isBody b = true
    · obtain ⟨body, closed, rest, rfl, hbody, hrest⟩ := ih
      exact ⟨b :: body, closed, rest, rfl, by simpa [hb] using hbody, hrest⟩
    · refine ⟨[], false, b :: bytes, rfl, by simp, ?_⟩
      rintro - c ⟨⟩
      simpa [isBody, hend] using hb

namespace Phrase

def bytes : Phrase → Bytes
  | message status data => status :: data
  | group _ data => data
  | sysex body closed => Status.sysexStart :: sysexTail body closed

/-- Whether a phrase is well formed where `running` is in force and `rest` follows it. -/
def Formed (running : Option UInt8) (rest : Bytes) : Phrase → Prop
  | message status data =>
    dataCount? status = some data.length ∧ ∀ b ∈ data, isStatus b = false
  | group status data =>
    running = some status ∧ dataCount? status = some data.length ∧ ∀ b ∈ data, isStatus b = false
  | sysex body closed => (∀ b ∈ body, isBody b = true) ∧ (closed = false → Breaks rest)

def after (running : Option UInt8) : Phrase → Option UInt8
  | message status _ =>
    if isRealtime status then running else if isVoice status then some status else none
  | group status _ => some status
  | sysex _ _ => none

end Phrase

def spelling (phrases : List Phrase) : Bytes := phrases.flatMap Phrase.bytes

/-- The running status after a sequence of phrases. -/
def runningAfter (running : Option UInt8) (phrases : List Phrase) : Option UInt8 :=
  phrases.foldl Phrase.after running

/-- Whether phrases are well formed one after the other, with `rest` behind the last. -/
def Sentence (running : Option UInt8) : List Phrase → Bytes → Prop
  | [], _ => True
  | p :: ps, rest => p.Formed running (spelling ps ++ rest) ∧ Sentence (p.after running) ps rest

/-- A way to read phrases from the front of a stream as far as there are any: no phrase can be
formed from what is `stuck`. -/
structure Reading (running : Option UInt8) (stream : Bytes) (phrases : List Phrase)
    (stuck : Bytes) : Prop where
  spells : stream = spelling phrases ++ stuck
  sentence : Sentence running phrases stuck
  ends : stuck ≠ [] → ∀ (p : Phrase) (rest : Bytes), stuck = p.bytes ++ rest →
    ¬ p.Formed (runningAfter running phrases) rest

@[simp] theorem spelling_nil : spelling [] = [] := rfl

@[simp] theorem spelling_cons (p : Phrase) (ps : List Phrase) :
    spelling (p :: ps) = p.bytes ++ spelling ps := rfl

def RunsVoice (running : Option UInt8) : Prop := ∀ s, running = some s → isVoice s = true

theorem runsVoice_none : RunsVoice none := fun _ h => by cases h

theorem Phrase.Formed.after_runsVoice {p : Phrase} {running : Option UInt8} {rest : Bytes}
    (h : p.Formed running rest) (hr : RunsVoice running) : RunsVoice (p.after running) := by
  cases p with
  | message status data =>
    simp only [Phrase.after]
    split
    · exact hr
    split
    · rintro s ⟨⟩
      assumption
    · rintro s ⟨⟩
  | group status data => exact fun s hs => hr s (h.1.trans hs)
  | sysex body closed => rintro s ⟨⟩

theorem Phrase.Formed.bytes_ne_nil {p : Phrase} {running : Option UInt8} {rest : Bytes}
    (h : p.Formed running rest) (hr : RunsVoice running) : p.bytes ≠ [] := by
  cases p with
  | message status data => exact List.cons_ne_nil _ _
  | group status data =>
    have hpos := dataCount_pos (hr status h.1) h.2.1
    exact List.ne_nil_of_length_pos hpos
  | sysex body closed => exact List.cons_ne_nil _ _

theorem exists_reading (running : Option UInt8) (stream : Bytes) (hr : RunsVoice running) :
    ∃ phrases stuck, Reading running stream phrases stuck := by
  induction hn : stream.length using Nat.strongRecOn generalizing running stream with
  | ind n ih =>
    subst hn
    by_cases hp : ∃ (p : Phrase) (rest : Bytes), stream = p.bytes ++ rest ∧ p.Formed running rest
    · obtain ⟨p, rest, rfl, hp⟩ := hp
      have hpos := List.length_pos_iff.mpr (hp.bytes_ne_nil hr)
      obtain ⟨phrases, stuck, hread⟩ :=
        ih rest.length (by rw [List.length_append]; omega) _ rest (hp.after_runsVoice hr) rfl
      refine ⟨p :: phrases, stuck, ?_, ⟨?_, hread.sentence⟩, hread.ends⟩
      · rw [spelling_cons, List.append_assoc, ← hread.spells]
      · rwa [← hread.spells]
    · exact ⟨[], stream, rfl, trivial, fun _ p rest heq h => hp ⟨p, rest, heq, h⟩⟩

end PatchBay
