import PatchBay.Message
import PatchBay.Text.Literal

/-!
# Kinds of messages

What the bytes of a message mean. A status byte that is not followed by the data bytes it needs, or
that has no meaning, leaves the message unknown; bytes after the ones that are needed are ignored,
and so is the top bit of a data byte.
-/

namespace PatchBay

/-- The meaning of a message. Channels count from 0. -/
inductive Kind where
  /-- A key goes down, with a velocity of at least 1. -/
  | noteOn (channel note velocity : UInt8)
  /-- A key goes up. -/
  | noteOff (channel note velocity : UInt8)
  /-- A controller moves. -/
  | controlChange (channel controller value : UInt8)
  /-- Another program is chosen. -/
  | programChange (channel program : UInt8)
  /-- The pitch wheel moves, from -8192 to 8191 with 0 as its centre. -/
  | pitchBend (channel : UInt8) (value : Int)
  /-- Pressure on the whole channel. -/
  | channelAftertouch (channel pressure : UInt8)
  /-- Pressure on one key. -/
  | polyAftertouch (channel note pressure : UInt8)
  /-- System Exclusive, with the bytes between its first and its closing byte. -/
  | sysex (payload : Bytes)
  /-- A quarter frame of time code. -/
  | timeCode (value : UInt8)
  /-- A position in the song, in sixteenth notes. -/
  | songPosition (value : Nat)
  /-- Another song is chosen. -/
  | songSelect (value : UInt8)
  /-- Oscillators should be tuned. -/
  | tuneRequest
  /-- A tick of the timing clock. -/
  | timingClock
  /-- The sequence starts from its beginning. -/
  | start
  /-- The sequence goes on. -/
  | resume
  /-- The sequence stops. -/
  | stop
  /-- The sender is still there. -/
  | activeSensing
  /-- The receiver should start afresh. -/
  | reset
  /-- No meaning was found. -/
  | unknown (bytes : Bytes)
deriving Repr, DecidableEq, Inhabited

namespace Kind

/-- The seven bits of a data byte. -/
def low7 (b : UInt8) : UInt8 := b &&& 0x7F

/-- Fourteen bits from two data bytes, the less significant first. -/
def low14 (lsb msb : UInt8) : Nat := (low7 lsb).toNat + 128 * (low7 msb).toNat

/-- The bytes of a SysEx after its first byte, without a closing byte at the end. -/
def payload (rest : Bytes) : Bytes :=
  if rest.getLast? = some Status.sysexEnd then rest.dropLast else rest

/-- The meaning of a system message. -/
def system? (status : UInt8) (data : Bytes) : Option Kind :=
  match status, data with
  | 0xF8, _ => some .timingClock
  | 0xFA, _ => some .start
  | 0xFB, _ => some .resume
  | 0xFC, _ => some .stop
  | 0xFE, _ => some .activeSensing
  | 0xFF, _ => some .reset
  | 0xF6, _ => some .tuneRequest
  | 0xF0, rest => some (.sysex (payload rest))
  | 0xF1, a :: _ => some (.timeCode (low7 a))
  | 0xF2, a :: b :: _ => some (.songPosition (low14 a b))
  | 0xF3, a :: _ => some (.songSelect (low7 a))
  | _, _ => none

/-- The meaning of a channel voice message. A Note On of velocity 0 is a Note Off. -/
def voice? (status : UInt8) (data : Bytes) : Option Kind :=
  let channel := status &&& 0x0F
  match status &&& 0xF0, data with
  | 0x80, n :: v :: _ => some (.noteOff channel (low7 n) (low7 v))
  | 0x90, n :: v :: _ =>
    if low7 v = 0 then some (.noteOff channel (low7 n) 0)
    else some (.noteOn channel (low7 n) (low7 v))
  | 0xA0, n :: p :: _ => some (.polyAftertouch channel (low7 n) (low7 p))
  | 0xB0, c :: v :: _ => some (.controlChange channel (low7 c) (low7 v))
  | 0xC0, p :: _ => some (.programChange channel (low7 p))
  | 0xD0, p :: _ => some (.channelAftertouch channel (low7 p))
  | 0xE0, a :: b :: _ => some (.pitchBend channel ((low14 a b : Int) - 8192))
  | _, _ => none

/-- The meaning of some bytes, none if there are no bytes. -/
def parse? : Bytes → Option Kind
  | [] => none
  | status :: data =>
    some (((system? status data).orElse fun _ => voice? status data).getD
      (.unknown (status :: data)))

/-- Whether the message keeps time: time code or a clock tick. -/
def isTiming : Kind → Bool
  | .timeCode _ | .timingClock => true
  | _ => false

/-! ## Showing a kind -/

/-- What a kind carries besides its name. -/
inductive Content where
  /-- Nothing. -/
  | none
  /-- One number. -/
  | number (value : Int)
  /-- Numbers with their labels. -/
  | fields (values : List (String × Int))
  /-- Bytes. -/
  | bytes (data : Bytes)
deriving Repr, DecidableEq

/-- The name of a kind. -/
def name : Kind → String
  | .noteOn .. => "NoteOn"
  | .noteOff .. => "NoteOff"
  | .controlChange .. => "ControlChange"
  | .programChange .. => "ProgramChange"
  | .pitchBend .. => "PitchBend"
  | .channelAftertouch .. => "ChannelAftertouch"
  | .polyAftertouch .. => "PolyAftertouch"
  | .sysex _ => "SysEx"
  | .timeCode _ => "TimeCode"
  | .songPosition _ => "SongPosition"
  | .songSelect _ => "SongSelect"
  | .tuneRequest => "TuneRequest"
  | .timingClock => "TimingClock"
  | .start => "Start"
  | .resume => "Continue"
  | .stop => "Stop"
  | .activeSensing => "ActiveSensing"
  | .reset => "Reset"
  | .unknown _ => "Unknown"

/-- Labelled numbers that are bytes. -/
def byteFields (values : List (String × UInt8)) : Content :=
  .fields (values.map fun (label, b) => (label, (b.toNat : Int)))

/-- What a kind carries, in the order in which it is shown. -/
def content : Kind → Content
  | .noteOn c n v | .noteOff c n v => byteFields [("channel", c), ("note", n), ("velocity", v)]
  | .controlChange c n v => byteFields [("channel", c), ("controller", n), ("value", v)]
  | .programChange c p => byteFields [("channel", c), ("program", p)]
  | .pitchBend c v => .fields [("channel", c.toNat), ("value", v)]
  | .channelAftertouch c p => byteFields [("channel", c), ("pressure", p)]
  | .polyAftertouch c n p => byteFields [("channel", c), ("note", n), ("pressure", p)]
  | .sysex data | .unknown data => .bytes data
  | .timeCode v | .songSelect v => .number v.toNat
  | .songPosition v => .number v
  | .tuneRequest | .timingClock | .start | .resume | .stop | .activeSensing | .reset => .none

/-- A kind on one line. -/
def describe (k : Kind) : String :=
  match k.content with
  | .none => k.name
  | .number v => Literal.tuple k.name (toString v)
  | .fields values =>
    Literal.record k.name (values.map fun (label, v) => Literal.field label (toString v))
  | .bytes data => Literal.tuple k.name (Literal.list (data.map toString))

end Kind

/-- The meaning of a message. -/
def Message.kind? (m : Message) : Option Kind := Kind.parse? m.bytes

end PatchBay
