import PatchBay.Byte
import PatchBay.Text.Hex

/-!
# From a byte stream to events

The encoder takes one event at a time from the front of a byte stream. An event is a real-time byte,
a system or channel message with its data bytes, or a piece of a SysEx. Between two calls it keeps
its *mode*: the status byte that data bytes without one of their own refer to (*running status*),
and whether a SysEx has been opened and not yet ended. A SysEx is cut into pieces that are no longer
than the encoder's capacity.

`next` is the encoder without its buffer, a function of capacity, mode and bytes; `Encoder.encode`
keeps the last event and the mode.
-/

namespace PatchBay

/-- Why no event can be taken from the front of some bytes. -/
inductive EncodeError where
  /-- The bytes end before the event does. -/
  | incomplete
  /-- A SysEx is ended that was not begun. -/
  | strayEnd
  /-- A status byte without a meaning. -/
  | undefinedStatus (status : UInt8)
  /-- A data byte where no running status is in force. -/
  | strayData (data : UInt8)
  /-- A status byte stands where a data byte is needed. -/
  | statusInData (status : UInt8)
deriving Repr, DecidableEq

/-- A byte as it is named in an error. -/
def EncodeError.byteText (b : UInt8) : String := "0x" ++ Hex.byte b

/-- What is wrong with the bytes, if they are not just too few. -/
def EncodeError.reason? : EncodeError → Option String
  | .incomplete => none
  | .strayEnd => some "end of exclusive without a SysEx in progress"
  | .undefinedStatus b => some ("undefined status byte " ++ byteText b)
  | .strayData b => some ("data byte " ++ byteText b ++ " without a status byte")
  | .statusInData b => some ("status byte " ++ byteText b ++ " inside message data")

namespace Encoder

/-- What the encoder remembers from one event to the next. -/
structure Mode where
  /-- The status byte that data bytes without one of their own refer to. -/
  running : Option UInt8 := none
  /-- Whether a SysEx has been opened and not yet ended. -/
  inSysex : Bool := false
deriving Repr, DecidableEq, Inhabited

/-- The number of data bytes of a channel message. -/
def channelDataCount (status : UInt8) : Nat :=
  let kind := status &&& 0xF0
  if kind = Status.programChange ∨ kind = Status.channelAftertouch then 1 else 2

/-- The number of data bytes of a system message, none if the status byte has no meaning. -/
def systemDataCount? (status : UInt8) : Option Nat :=
  if status = Status.timeCode ∨ status = Status.songSelect then some 1
  else if status = Status.songPosition then some 2
  else if status = Status.tuneRequest then some 0
  else none

/-- The first `count` bytes, which have to be data bytes. -/
def takeData (count : Nat) (bytes : Bytes) : Except EncodeError Bytes :=
  if bytes.length < count then .error .incomplete
  else
    match (bytes.take count).find? isStatus with
    | some b => .error (.statusInData b)
    | none => .ok (bytes.take count)

/-- The number of bytes, at most `room`, that continue a SysEx, and whether it is still open after
them. Its closing byte is the last of them; any other status byte that is not real-time ends the
SysEx without being part of it. -/
def sysexRun : Nat → Bytes → Nat × Bool
  | 0, _ => (0, true)
  | _ + 1, [] => (0, true)
  | room + 1, b :: rest =>
    if b = Status.sysexEnd then (1, false)
    else if isStatus b && !isRealtime b then (0, false)
    else ((sysexRun room rest).1 + 1, (sysexRun room rest).2)

/-- An event taken from the front of some bytes. -/
structure Event where
  /-- How many of the bytes it used up. -/
  consumed : Nat
  /-- The event's own bytes, status byte first. -/
  bytes : Bytes
deriving Repr, DecidableEq

/-- Takes one event from the front of some bytes. Gives the event and the mode after it; where
there is none, the mode may have changed all the same. -/
def next (capacity : Nat) (mode : Mode) : Bytes → Except EncodeError Event × Mode
  | [] => (.error .incomplete, mode)
  | first :: rest =>
    if isRealtime first then (.ok ⟨1, [first]⟩, mode)
    else if first = Status.sysexStart ∨ (mode.inSysex ∧ ¬ isStatus first) then
      let run := sysexRun (capacity - 1) rest
      (.ok ⟨run.1 + 1, first :: rest.take run.1⟩,
        { running := if first = Status.sysexStart then none else mode.running, inSysex := run.2 })
    else if first = Status.sysexEnd then
      if mode.inSysex then (.ok ⟨1, [first]⟩, { mode with inSysex := false })
      else (.error .strayEnd, mode)
    else if first < Status.noteOff then
      match mode.running with
      | none => (.error (.strayData first), mode)
      | some status =>
        match takeData (channelDataCount status) (first :: rest) with
        | .error e => (.error e, mode)
        | .ok data => (.ok ⟨data.length, status :: data⟩, mode)
    else if first < Status.sysexStart then
      match takeData (channelDataCount first) rest with
      | .error e => (.error e, { mode with inSysex := false })
      | .ok data => (.ok ⟨data.length + 1, first :: data⟩, { running := some first })
    else
      match systemDataCount? first with
      | none => (.error (.undefinedStatus first), { mode with inSysex := false })
      | some count =>
        match takeData count rest with
        | .error e => (.error e, {})
        | .ok data => (.ok ⟨data.length + 1, first :: data⟩, {})

/-! ## Every event uses up some of the bytes -/

theorem sysexRun_le (room : Nat) (bytes : Bytes) : (sysexRun room bytes).1 ≤ bytes.length := by
  fun_induction sysexRun room bytes <;> simp_all

theorem sysexRun_le_room (room : Nat) (bytes : Bytes) : (sysexRun room bytes).1 ≤ room := by
  fun_induction sysexRun room bytes <;> simp_all

theorem takeData_length {count : Nat} {bytes data : Bytes}
    (h : takeData count bytes = .ok data) : data.length = count ∧ count ≤ bytes.length := by
  unfold takeData at h
  split at h
  · cases h
  · rename_i hlen
    split at h
    · cases h
    · cases h
      exact ⟨by simp; omega, by omega⟩

theorem channelDataCount_pos (status : UInt8) : 0 < channelDataCount status := by
  simp only [channelDataCount]
  split <;> omega

/-- An event uses up at least one byte and no more bytes than there are. -/
theorem next_consumed {capacity : Nat} {mode after : Mode} {bytes : Bytes} {event : Event}
    (h : next capacity mode bytes = (.ok event, after)) :
    0 < event.consumed ∧ event.consumed ≤ bytes.length := by
  cases bytes with
  | nil => cases h
  | cons first rest =>
    rw [next] at h
    have hrun := sysexRun_le (capacity - 1) rest
    split at h
    · cases h; simp
    split at h
    · cases h; simp [hrun]
    split at h
    · split at h <;> cases h
      simp
    split at h
    · split at h
      · cases h
      · rename_i status _
        split at h
        · cases h
        · rename_i data hdata
          cases h
          have hlen := takeData_length hdata
          have hpos := channelDataCount_pos status
          simp only [List.length_cons] at hlen ⊢
          omega
    split at h
    · split at h
      · cases h
      · rename_i data hdata
        cases h
        have hlen := takeData_length hdata
        simp only [List.length_cons]
        omega
    · split at h
      · cases h
      · split at h
        · cases h
        · rename_i data hdata
          cases h
          have hlen := takeData_length hdata
          simp only [List.length_cons]
          omega

end Encoder

/-- An encoder with the buffer that holds its last event. The capacity only grows. -/
structure Encoder where
  /-- The length of the longest piece of a SysEx that one event may hold. -/
  capacity : Nat
  /-- One byte always fits. -/
  capacity_pos : 0 < capacity
  /-- The last event, empty after a failure. -/
  event : Bytes := []
  /-- What is remembered for the next event. -/
  mode : Encoder.Mode := {}
deriving Repr, DecidableEq

namespace Encoder

/-- The capacity of an encoder that is not told otherwise. -/
def defaultCapacity : Nat := 32

/-- The largest capacity that a buffer can have. -/
def maxCapacity : Nat := Nat.pow 2 63 - 1

/-- A fresh encoder. It has room for one byte at least. -/
def ofCapacity (capacity : Nat) : Encoder :=
  { capacity := max capacity 1, capacity_pos := by omega }

instance : Inhabited Encoder := ⟨ofCapacity defaultCapacity⟩

/-- Forgets the last event, running status and an open SysEx. -/
def reset (e : Encoder) : Encoder := { e with event := [], mode := {} }

/-- Encodes the first event of `bytes`, and gives how many bytes it used up. -/
def encode (e : Encoder) (bytes : Bytes) : Except EncodeError Nat × Encoder :=
  match next e.capacity e.mode bytes with
  | (.ok event, mode) => (.ok event.consumed, { e with event := event.bytes, mode })
  | (.error err, mode) => (.error err, { e with event := [], mode })

/-- Why a buffer cannot grow: it would be larger than a buffer can be. -/
structure Unreservable where
  /-- The capacity that was asked for. -/
  required : Nat
deriving Repr, DecidableEq

/-- Grows the capacity to at least `required`, and gives whether it had to grow. Growing drops the
last event. -/
def reserve (e : Encoder) (required : Nat) : Except Unreservable Bool × Encoder :=
  if h : required ≤ e.capacity then (.ok false, e)
  else if required ≤ maxCapacity then
    (.ok true, { e with capacity := required, capacity_pos := by omega, event := [] })
  else (.error ⟨required⟩, { e with event := [] })

@[simp] theorem reset_capacity (e : Encoder) : e.reset.capacity = e.capacity := rfl

@[simp] theorem reset_event (e : Encoder) : e.reset.event = [] := rfl

@[simp] theorem reset_mode (e : Encoder) : e.reset.mode = {} := rfl

@[simp] theorem encode_capacity (e : Encoder) (bytes : Bytes) :
    (e.encode bytes).2.capacity = e.capacity := by
  unfold encode
  split <;> rfl

/-- What one call of `encodeAll` did. -/
structure Round where
  /-- How many bytes the event used up, or why there is none. -/
  result : Except EncodeError Nat
  /-- The encoder afterwards. -/
  after : Encoder

/-- Encoding uses up at least one byte and no more bytes than there are. -/
theorem encode_consumed {e after : Encoder} {bytes : Bytes} {n : Nat}
    (h : e.encode bytes = (.ok n, after)) : 0 < n ∧ n ≤ bytes.length := by
  unfold encode at h
  split at h
  · rename_i hnext
    cases h
    exact next_consumed hnext
  · cases h

/-- Encodes event after event until all bytes are used up or there is no event. -/
def encodeAll (e : Encoder) (bytes : Bytes) : List Round × Encoder :=
  if bytes = [] then ([], e)
  else
    match h : e.encode bytes with
    | (.error err, after) => ([⟨.error err, after⟩], after)
    | (.ok n, after) =>
      have := encode_consumed h
      let more := encodeAll after (bytes.drop n)
      (⟨.ok n, after⟩ :: more.1, more.2)
termination_by bytes.length
decreasing_by
  simp only [List.length_drop]
  omega

end Encoder

end PatchBay
