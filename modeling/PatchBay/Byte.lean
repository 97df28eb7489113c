/-!
# MIDI bytes

A MIDI stream is a sequence of bytes. A byte of `0x80` or more is a *status byte*, which says what
the bytes after it mean; a smaller one is a *data byte*. The status bytes from `0xF8` on are
*real-time*: each is a whole message and may stand anywhere, also inside another message.
-/

namespace PatchBay

/-- A run of MIDI bytes: a fragment, an event or a whole message. -/
abbrev Bytes := List UInt8

namespace Status

/-! ## Channel voice messages

The upper four bits name the message and the lower four its channel. -/

/-- Note Off, on channel 0. -/
def noteOff : UInt8 := 0x80

/-- Note On, on channel 0. -/
def noteOn : UInt8 := 0x90

/-- Polyphonic key pressure, on channel 0. -/
def polyAftertouch : UInt8 := 0xA0

/-- Control Change, on channel 0. -/
def controlChange : UInt8 := 0xB0

/-- Program Change, on channel 0. -/
def programChange : UInt8 := 0xC0

/-- Channel pressure, on channel 0. -/
def channelAftertouch : UInt8 := 0xD0

/-- Pitch Bend, on channel 0. -/
def pitchBend : UInt8 := 0xE0

/-! ## System common messages -/

/-- Opens a System Exclusive message (SysEx). -/
def sysexStart : UInt8 := 0xF0

/-- MIDI Time Code quarter frame. -/
def timeCode : UInt8 := 0xF1

/-- Song Position Pointer. -/
def songPosition : UInt8 := 0xF2

/-- Song Select. -/
def songSelect : UInt8 := 0xF3

/-- Tune Request. -/
def tuneRequest : UInt8 := 0xF6

/-- Ends a System Exclusive message. -/
def sysexEnd : UInt8 := 0xF7

/-! ## System real-time messages -/

/-- Timing Clock, the smallest real-time byte. -/
def timingClock : UInt8 := 0xF8

/-- Active Sensing. -/
def activeSensing : UInt8 := 0xFE

end Status

/-- Whether a byte is a status byte rather than data. -/
def isStatus (b : UInt8) : Bool := 0x80 ≤ b

/-- Whether a byte is a real-time message of its own. -/
def isRealtime (b : UInt8) : Bool := Status.timingClock ≤ b

/-- A real-time byte is a status byte. -/
theorem isStatus_of_isRealtime {b : UInt8} (h : isRealtime b) : isStatus b := by
  simp only [isRealtime, isStatus, Status.timingClock, decide_eq_true_eq, UInt8.le_iff_toNat_le]
    at h ⊢
  exact Nat.le_trans (by decide) h

end PatchBay
