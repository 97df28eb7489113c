import PatchBay.Byte

/-!
# Filtering fragments

Every fragment that arrives is classified by its first byte, and the class together with the filter
decides whether its bytes join the message being built and whether that message is complete.

A SysEx may be spread over several fragments. Whether one is in progress is tracked also where
SysEx is ignored, so that the fragment after an ignored SysEx is still seen as a fresh message.
Timing and sensing fragments that arrive inside a SysEx join it and are handed out with it.
-/

namespace PatchBay

/-- The classes of messages that an input drops. -/
structure Filter where
  /-- Drop System Exclusive messages. -/
  ignoreSysex : Bool := true
  /-- Drop time code and clock ticks. -/
  ignoreTiming : Bool := true
  /-- Drop active sensing. -/
  ignoreSensing : Bool := true
deriving Repr, DecidableEq, Inhabited

/-- The filter that drops nothing. -/
def Filter.passAll : Filter := ⟨false, false, false⟩

/-- What a fragment turned out to be. -/
inductive FragmentClass where
  /-- It opens a SysEx. -/
  | sysexStart
  /-- It arrived while a SysEx is in progress. -/
  | sysexContinuation
  /-- Time code or a clock tick. -/
  | timing
  /-- Active sensing. -/
  | sensing
  /-- Anything else. -/
  | message
deriving Repr, DecidableEq, Inhabited

/-- Whether the fragment is part of a SysEx by its own right. -/
def FragmentClass.isSysex : FragmentClass → Bool
  | .sysexStart | .sysexContinuation => true
  | _ => false

/-- What becomes of a fragment. -/
structure Decision where
  /-- What the fragment is. -/
  kind : FragmentClass
  /-- Its bytes join the message being built. -/
  accumulate : Bool
  /-- The message being built is complete. -/
  deliver : Bool
deriving Repr, DecidableEq, Inhabited

/-- Whether the fragment was filtered out, as opposed to held back. -/
def Decision.isSuppressed (d : Decision) : Bool := !d.accumulate

namespace Filter

/-- The class of a fragment that starts with `first`, given whether a SysEx is in progress. -/
def classify (continuing : Bool) (first : UInt8) : FragmentClass :=
  if first = Status.sysexStart then .sysexStart
  else if first = Status.timeCode ∨ first = Status.timingClock then .timing
  else if first = Status.activeSensing then .sensing
  else if continuing then .sysexContinuation
  else .message

/-- Whether a SysEx is in progress after a fragment of this class that ends with `last`. Only a
fragment that is part of a SysEx by its own right opens or closes one. -/
def continuingAfter (kind : FragmentClass) (last : UInt8) (continuing : Bool) : Bool :=
  if kind.isSysex then last != Status.sysexEnd else continuing

/-- Whether the filter drops fragments of a class. -/
def ignores (f : Filter) : FragmentClass → Bool
  | .sysexStart | .sysexContinuation => f.ignoreSysex
  | .timing => f.ignoreTiming
  | .sensing => f.ignoreSensing
  | .message => false

/-- What becomes of a fragment of this class, where `continuing` says whether a SysEx is in
progress after it. A fragment inside a SysEx shares the fate of the SysEx. -/
def verdict (f : Filter) (kind : FragmentClass) (continuing : Bool) : Decision :=
  let keep := !f.ignores kind && !(continuing && f.ignoreSysex)
  { kind, accumulate := keep, deliver := keep && !continuing }

/-- Classifies a fragment. Gives what becomes of it, and whether a SysEx is in progress after it.
An empty fragment is dropped. -/
def apply (f : Filter) (continuing : Bool) (fragment : Bytes) : Decision × Bool :=
  match fragment.head?, fragment.getLast? with
  | some first, some last =>
    let kind := classify continuing first
    let continuing := continuingAfter kind last continuing
    (f.verdict kind continuing, continuing)
  | _, _ => ({ kind := .message, accumulate := false, deliver := false }, continuing)

end Filter

end PatchBay
