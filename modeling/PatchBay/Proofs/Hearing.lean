import PatchBay.Proofs.Cursor
import PatchBay.Proofs.Filtering

/-!
# What is heard of a stream

An assembler that is given the events of a stream, one fragment each, hands over the messages of the
stream that its filter does not ignore. The invariant is that the draft holds what has been sent of
an open SysEx, unless SysEx is ignored.
-/

namespace PatchBay

namespace Filter

variable {f : Filter} {c : Bool} {first : UInt8} {rest : Bytes}

/-- Whether a message is handed over: it is none of those that are ignored. -/
def passes (f : Filter) (message : Bytes) : Bool := !(f.mutes message || f.hides message)

/-- A fragment that is part of a SysEx leaves it open unless it ends with the closing byte. -/
theorem apply_sysex (hk : (classify c first).isSysex = true) {last : UInt8}
    (hlast : (first :: rest).getLast? = some last) :
    f.apply c (first :: rest) =
      (f.verdict (classify c first) (last != Status.sysexEnd), last != Status.sysexEnd) := by
  have hcont : continuingWith c first rest = (last != Status.sysexEnd) := by
    rw [List.getLast?_eq_some_getLast (List.cons_ne_nil first rest), Option.some_inj] at hlast
    rw [continuingWith, continuingAfter, if_pos hk, hlast]
  rw [apply_cons, hcont]

/-- Data and the closing byte belong to the SysEx that is in progress. -/
theorem classify_inside (h : isStatus first = false ∨ first = Status.sysexEnd) :
    classify true first = .sysexContinuation := by
  have hdata : ∀ {s : UInt8}, isStatus s = true → s ≠ Status.sysexEnd → first ≠ s := by
    rintro s hs hne rfl
    rcases h with h | h
    · rw [h] at hs
      cases hs
    · exact hne h
  unfold classify
  rw [if_neg (hdata rfl (by decide)), if_neg, if_neg (hdata rfl (by decide)), if_pos rfl]
  rintro (h1 | h8)
  · exact hdata rfl (by decide) h1
  · exact hdata rfl (by decide) h8

/-- A SysEx passes unless SysEx is ignored. -/
theorem passes_sysex {message : Bytes} (h : message.head? = some Status.sysexStart) :
    f.passes message = !f.ignoreSysex := by
  have hm : f.mutes message = false := by
    unfold mutes
    rw [h]
    simp [show Status.sysexStart ≠ Status.timeCode by decide,
      show Status.sysexStart ≠ Status.timingClock by decide,
      show Status.sysexStart ≠ Status.activeSensing by decide]
  simp [passes, hm, hides, h]

/-- A fragment that is data but for its first byte does not end a SysEx. -/
theorem exists_last (h : ∀ b ∈ rest, isStatus b = false) (hf : first ≠ Status.sysexEnd) :
    ∃ last, (first :: rest).getLast? = some last ∧ last ≠ Status.sysexEnd := by
  refine ⟨_, List.getLast?_eq_some_getLast (List.cons_ne_nil first rest), fun hlast => ?_⟩
  have hmem := List.getLast_mem (List.cons_ne_nil first rest)
  rw [hlast] at hmem
  rcases List.mem_cons.mp hmem with heq | hmem
  · exact hf heq.symm
  · have hdata := h _ hmem
    cases hdata

end Filter

namespace Assembler

open Cursor

variable {a : Assembler} {e : RawEvent} {c c' : Cursor} {piece : Bytes}

/-- What an assembler remembers of the events up to a cursor. -/
def Hears (a : Assembler) : Cursor → Prop
  | .between _ => a.continuing = false
  | .inside sent _ _ => a.continuing = true ∧ sent.head? = some Status.sysexStart ∧
      (a.filter.ignoreSysex = false → a.draft.bytes = sent)

/-- A message of fixed length is handed over on its own, if it is not ignored. -/
theorem short_message {status : UInt8} {data : Bytes} (hc : a.continuing = false)
    (he : e.fragment = status :: data) (hn : dataCount? status = some data.length) :
    (a.process e).continuing = false ∧
      a.emittedBytes e = [e.fragment].filter a.filter.passes := by
  have hx : e.fragment ≠ [] := by
    rw [he]
    exact List.cons_ne_nil _ _
  have hhead : e.fragment.head? ≠ some Status.sysexStart := by
    rw [he, List.head?_cons]
    rintro ⟨⟩
    cases hn
  have hkind : (a.judge e.fragment).1.kind.isSysex = false := by
    cases hs : (a.judge e.fragment).1.kind.isSysex with
    | false => rfl
    | true =>
      rw [judge, hc] at hs
      exact absurd ((Filter.apply_kind_sysexStart _ _ _).mp (Filter.kind_of_isSysex hs)) hhead
  have hopen : (a.judge e.fragment).2 = false := by
    rw [← hc]
    exact Filter.apply_continuing_of_not_isSysex hkind
  have hacc : (a.judge e.fragment).1.accumulate = !a.filter.mutes e.fragment := by
    have hignores : a.filter.ignores (a.judge e.fragment).1.kind = a.filter.mutes e.fragment := by
      cases hm : a.filter.mutes e.fragment with
      | true => exact (Filter.apply_of_mutes hm).2
      | false =>
        have hnot : a.filter.ignores (a.judge e.fragment).1.kind =
            ((a.judge e.fragment).1.kind.isSysex && _) := Filter.ignores_of_not_mutes hm
        rw [hnot, hkind, Bool.false_and]
    rw [judge_accumulate _ hx, hopen, hignores, Bool.false_and, Bool.not_false, Bool.and_true]
  have hdel : (a.judge e.fragment).1.deliver = !a.filter.mutes e.fragment := by
    rw [judge_deliver, hacc, hopen, Bool.not_false, Bool.and_true]
  have hpasses : a.filter.passes e.fragment = !a.filter.mutes e.fragment := by
    simp [Filter.passes, Filter.hides, hhead]
  refine ⟨by rw [process_continuing, hopen], ?_⟩
  rw [emittedBytes_eq, hdel]
  cases hm : a.filter.mutes e.fragment with
  | true => simp [hpasses, hm]
  | false => simp [hpasses, hm, gathered, hc, hacc]

/-- A fragment of a SysEx shares the fate of the SysEx, which is handed over as soon as it is not
open any more. -/
theorem sysex_fragment {first last : UInt8} {rest : Bytes} (he : e.fragment = first :: rest)
    (hlast : e.fragment.getLast? = some last)
    (hk : (Filter.classify a.continuing first).isSysex = true) :
    let held := (if a.continuing then a.draft.bytes else []) ++ e.fragment
    (a.process e).continuing = (last != Status.sysexEnd) ∧
      (a.filter.ignoreSysex = false → last ≠ Status.sysexEnd →
        (a.process e).draft.bytes = held) ∧
      a.emittedBytes e =
        if last = Status.sysexEnd ∧ a.filter.ignoreSysex = false then [held] else [] := by
  intro held
  have hx : e.fragment ≠ [] := by
    rw [he]
    exact List.cons_ne_nil _ _
  have hjudge : a.judge e.fragment =
      (a.filter.verdict (Filter.classify a.continuing first) (last != Status.sysexEnd),
        last != Status.sysexEnd) := by
    rw [he] at hlast ⊢
    exact Filter.apply_sysex hk hlast
  have hacc : (a.judge e.fragment).1.accumulate = !a.filter.ignoreSysex := by
    rw [hjudge]
    simp only [Filter.verdict, Filter.ignores_of_isSysex hk]
    cases a.filter.ignoreSysex <;> simp
  have hdel : (a.judge e.fragment).1.deliver =
      (!a.filter.ignoreSysex && last == Status.sysexEnd) := by
    rw [judge_deliver, hacc, hjudge]
    simp [bne]
  have hgathered : a.filter.ignoreSysex = false → a.gathered e.fragment = held := by
    intro hi
    rw [gathered, hacc, hi]
    rfl
  refine ⟨by rw [process_continuing, hjudge], fun hi hne => ?_, ?_⟩
  · rw [process_draft hx, hdel, hgathered hi]
    simp [hne]
  · rw [emittedBytes_eq, hdel]
    cases hi : a.filter.ignoreSysex with
    | true => simp
    | false => simp [hgathered hi]

/-- **What one event makes heard.** The assembler goes along with the cursor, and hands over the
message that is no longer owed, unless it is ignored. -/
theorem Hears.process (h : a.Hears c) (hs : Step c piece e.fragment c') :
    (a.process e).Hears c' ∧
      a.emittedBytes e ++ c'.owed.filter a.filter.passes = c.owed.filter a.filter.passes := by
  generalize he : e.fragment = event at hs
  cases hs with
  | @phrase p ps hp =>
    rw [Cursor.owed, Cursor.owed, List.map_cons, List.filter_cons]
    cases p with
    | message status data | group status data =>
      obtain ⟨hcont, hbytes⟩ := short_message h he hp.1
      refine ⟨hcont, ?_⟩
      rw [hbytes, he]
      simp only [List.filter_cons]
      split <;> rfl
    | sysex body closed =>
      obtain ⟨rfl, -⟩ := hp
      have hlast : e.fragment.getLast? = some Status.sysexEnd := by
        rw [he]
        exact List.getLast?_concat (l := Status.sysexStart :: body)
      have hidle : a.continuing = false := h
      obtain ⟨hcont, -, hbytes⟩ := sysex_fragment he hlast (by rw [hidle]; rfl)
      refine ⟨hcont, ?_⟩
      rw [hbytes, hidle, he, Filter.passes_sysex rfl]
      cases a.filter.ignoreSysex <;> simp
  | @opening body ps k hdata =>
    have hidle : a.continuing = false := h
    obtain ⟨last, hlast, hne⟩ := Filter.exists_last
      (fun b hb => hdata b (List.mem_of_mem_take hb)) (by decide : Status.sysexStart ≠ _)
    rw [← he] at hlast
    obtain ⟨hcont, hdraft, hbytes⟩ := sysex_fragment he hlast (by rw [hidle]; rfl)
    refine ⟨⟨by rw [hcont]; simp [hne], rfl, fun hi => ?_⟩, ?_⟩
    · rw [process_filter] at hi
      rw [hdraft hi hne, hidle, he]
      rfl
    · rw [hbytes, if_neg (fun hc => hne hc.1), List.nil_append, Cursor.owed, Cursor.owed,
        List.cons_append, ← sysexTail_split]
      rfl
  | @middle sent left b ps k hdata =>
    obtain ⟨hopen, hhead, hheld⟩ := h
    have hb : isStatus b = false := hdata b (List.mem_cons_self ..)
    have hend : b ≠ Status.sysexEnd := by
      rintro rfl
      cases hb
    obtain ⟨last, hlast, hne⟩ := Filter.exists_last
      (fun c hc => hdata c (List.mem_cons_of_mem _ (List.mem_of_mem_take hc))) hend
    rw [← he] at hlast
    obtain ⟨hcont, hdraft, hbytes⟩ := sysex_fragment he hlast (by
      rw [hopen, Filter.classify_inside (.inl hb)]
      rfl)
    refine ⟨⟨by rw [hcont]; simp [hne], ?_, fun hi => ?_⟩, ?_⟩
    · rw [List.head?_append, hhead]
      rfl
    · rw [process_filter] at hi
      rw [hdraft hi hne, hopen, if_pos rfl, hheld hi, he]
    · rw [hbytes, if_neg (fun hc => hne hc.1), List.nil_append, Cursor.owed, Cursor.owed,
        List.append_assoc, List.cons_append, ← sysexTail_split]
      rfl
  | @closing sent left ps hdata =>
    obtain ⟨hopen, hhead, hheld⟩ := h
    have hlast : e.fragment.getLast? = some Status.sysexEnd := by
      rw [he]
      exact List.getLast?_concat
    obtain ⟨first, rest, hcons⟩ : ∃ first rest, sysexTail left true = first :: rest :=
      List.exists_cons_of_ne_nil (List.append_ne_nil_of_right_ne_nil _ (List.cons_ne_nil _ _))
    have hfirst : isStatus first = false ∨ first = Status.sysexEnd := by
      have hmem : first ∈ left ++ [Status.sysexEnd] := by
        change first ∈ sysexTail left true
        rw [hcons]
        exact List.mem_cons_self ..
      rcases List.mem_append.mp hmem with hmem | hmem
      · exact .inl (hdata first hmem)
      · exact .inr (List.mem_singleton.mp hmem)
    obtain ⟨hcont, -, hbytes⟩ := sysex_fragment (he.trans hcons) hlast (by
      rw [hopen, Filter.classify_inside hfirst]
      rfl)
    refine ⟨hcont, ?_⟩
    have hstart : (sent ++ sysexTail left true).head? = some Status.sysexStart := by
      rw [List.head?_append, hhead]
      rfl
    rw [hbytes, hopen, if_pos rfl, he, Cursor.owed, Cursor.owed, List.filter_cons,
      Filter.passes_sysex hstart]
    cases hi : a.filter.ignoreSysex with
    | true => simp
    | false => simp [hheld hi]

theorem Hears.processAll (h : a.Hears c) {es : List RawEvent}
    (hs : Steps c (es.map (·.fragment)) c') :
    (a.processAll es).Hears c' ∧
      (a.handed es).map (·.bytes) ++ c'.owed.filter a.filter.passes =
        c.owed.filter a.filter.passes := by
  induction es generalizing a c with
  | nil =>
    cases hs
    exact ⟨h, rfl⟩
  | cons e es ih =>
    rw [List.map_cons] at hs
    cases hs with
    | cons first rest =>
      obtain ⟨hnext, hbytes⟩ := h.process first
      obtain ⟨hlast, hmore⟩ := ih hnext rest
      refine ⟨hlast, ?_⟩
      rw [process_filter] at hmore
      rw [handed, List.map_append, List.append_assoc, hmore]
      exact hbytes

end Assembler

end PatchBay
