import PatchBay.Byte
import PatchBay.Text.Decimal
import PatchBay.Text.Hex

/-!
# Messages

A message is a run of bytes with a timestamp, the seconds since the raw event before it. While its
fragments are still arriving it is a draft.
-/

namespace PatchBay

/-- One complete message, as it is handed to client code. -/
structure Message where
  /-- Seconds since the raw event before the one that completed the message. -/
  timestamp : Float
  /-- The bytes, status byte first. -/
  bytes : Bytes
deriving Repr, BEq, Inhabited

namespace Message

/-- The first byte. -/
def status? (m : Message) : Option UInt8 := m.bytes.head?

/-- Whether the message is a System Exclusive one. -/
def isSysex (m : Message) : Bool := m.status? == some Status.sysexStart

/-- The timestamp as it stands before a message: six places and a unit, aligned to the right. -/
def timeText (m : Message) : String :=
  Decimal.padLeft 10 (Decimal.fixed 6 (.ofBits m.timestamp.toBits)) ++ "s"

/-- The bytes in hexadecimal. -/
def hexText (m : Message) : String := Hex.spaced m.bytes

/-- The message on one line: timestamp and bytes. -/
def render (m : Message) : String := m.timeText ++ " " ++ m.hexText

end Message

/-- The bytes of a message that is still being put together. There is no limit to their number. -/
structure Draft where
  /-- The bytes so far. -/
  bytes : Bytes := []
deriving Repr, DecidableEq, Inhabited

namespace Draft

/-- Adds a fragment at the end. -/
def append (d : Draft) (fragment : Bytes) : Draft := ⟨d.bytes ++ fragment⟩

/-- Forgets the bytes. -/
def clear (_ : Draft) : Draft := {}

/-- Makes the bytes into a message, which leaves an empty draft. -/
def finish (d : Draft) (timestamp : Float) : Message × Draft := (⟨timestamp, d.bytes⟩, {})

@[simp] theorem append_bytes (d : Draft) (fragment : Bytes) :
    (d.append fragment).bytes = d.bytes ++ fragment := rfl

@[simp] theorem clear_bytes (d : Draft) : d.clear.bytes = [] := rfl

@[simp] theorem finish_fst (d : Draft) (timestamp : Float) :
    (d.finish timestamp).1 = ⟨timestamp, d.bytes⟩ := rfl

@[simp] theorem finish_snd (d : Draft) (timestamp : Float) : (d.finish timestamp).2 = {} := rfl

end Draft

end PatchBay
