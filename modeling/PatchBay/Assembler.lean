import PatchBay.Clock
import PatchBay.Driver
import PatchBay.Filter
import PatchBay.Message

/-!
# From fragments to messages

A driver delivers fragments. The assembler stamps each, classifies it, joins the fragments of a
SysEx, and hands each complete message to its sink: a callback, which takes every message, or a
bounded queue, which loses what does not fit. Nothing here fails; what is worth knowing is counted.

An assembler listens at a *gate*, which its input opens and closes. A batch for any port but the
gate's is not processed. Every opening of the gate has a new number; when the assembler first
processes a batch after an opening, it drops what it has of a message.
-/

namespace PatchBay

/-- A fragment with the reading of the clock at which it is processed. -/
structure RawEvent where
  /-- The reading. -/
  time : Time
  /-- The fragment, which may be empty. -/
  fragment : Bytes
deriving Repr, DecidableEq

/-- Fragments that are all processed at one time. -/
def RawEvent.batch (time : Time) (fragments : List Bytes) : List RawEvent :=
  fragments.map fun f => ⟨time, f⟩

/-- What an assembler counts. The counters wrap around. -/
structure Counters where
  /-- Messages that the sink took. -/
  delivered : UInt64 := 0
  /-- Fragments that the filter dropped. -/
  suppressed : UInt64 := 0
  /-- Empty fragments. -/
  dropped : UInt64 := 0
  /-- Messages that the sink lost. -/
  overflows : UInt64 := 0
  /-- Fragments that open a SysEx while one is in progress. -/
  restarted : UInt64 := 0
  /-- Batches that were not for the gate's port. -/
  inactive : UInt64 := 0
deriving Repr, DecidableEq, Inhabited

/-- Where complete messages go. -/
inductive Sink where
  /-- Client code is called with each message; `handed` are those of which no account has been
  taken yet, the oldest first. -/
  | callback (handed : List Message)
  /-- Messages wait for the client, the oldest first, as long as there is room. Once the client has
  closed the queue there is none. -/
  | queue (capacity : Nat) (waiting : List Message) (closed : Bool)
deriving Repr, Inhabited

namespace Sink

/-- An empty queue with room for `capacity` messages. -/
def ofCapacity (capacity : Nat) : Sink := .queue capacity [] false

/-- Hands over a message, and says whether it was taken. -/
def deliver (m : Message) : Sink → Bool × Sink
  | .callback handed => (true, .callback (handed ++ [m]))
  | .queue capacity waiting closed =>
    if !closed && waiting.length < capacity then (true, .queue capacity (waiting ++ [m]) closed)
    else (false, .queue capacity waiting closed)

/-- Takes the oldest message out of the queue. -/
def receive : Sink → Option Message × Sink
  | .queue capacity (m :: rest) closed => (some m, .queue capacity rest closed)
  | sink => (none, sink)

/-- Takes all messages out of the queue. -/
def receiveAll : Sink → List Message × Sink
  | .queue capacity waiting closed => (waiting, .queue capacity [] closed)
  | sink => ([], sink)

/-- Takes account of the messages that client code was called with. -/
def takeHanded : Sink → List Message × Sink
  | .callback handed => (handed, .callback [])
  | sink => ([], sink)

/-- Gives the queue up. Nothing can be received from it any more. -/
def close : Sink → Sink
  | .queue capacity _ _ => .queue capacity [] true
  | sink => sink

end Sink

/-- What lets batches in. -/
structure Gate where
  /-- The port whose batches are let in. -/
  active : Option PortId := none
  /-- How often the gate was opened. -/
  opening : UInt64 := 0
deriving Repr, DecidableEq, Inhabited

namespace Gate

/-- Opens the gate for a port. -/
def activate (g : Gate) (port : PortId) : Gate := ⟨some port, g.opening + 1⟩

/-- Closes the gate. -/
def deactivate (g : Gate) : Gate := { g with active := none }

end Gate

/-- The state of an assembler. -/
structure Assembler where
  /-- What it drops. -/
  filter : Filter
  /-- Where its messages go. -/
  sink : Sink
  /-- The message being built. -/
  draft : Draft := {}
  /-- Whether a SysEx is in progress. -/
  continuing : Bool := false
  /-- The stamping state. -/
  stamper : Stamper := {}
  /-- What it counted. -/
  counters : Counters := {}
  /-- The opening of the gate that it last saw. -/
  opening : UInt64 := 0
deriving Repr, Inhabited

namespace Assembler

/-- Hands a message to the sink. -/
def emit (a : Assembler) (m : Message) : Assembler :=
  let (taken, sink) := a.sink.deliver m
  { a with
    stamper := a.stamper.markDelivered
    sink
    counters :=
      if taken then { a.counters with delivered := a.counters.delivered + 1 }
      else { a.counters with overflows := a.counters.overflows + 1 } }

/-- Counts a fragment that was suppressed. -/
def countSuppressed (c : Counters) (d : Decision) : Counters :=
  if d.isSuppressed then { c with suppressed := c.suppressed + 1 } else c

/-- Counts a fragment that opens a SysEx inside another. -/
def countRestarted (c : Counters) (continuing : Bool) (d : Decision) : Counters :=
  if continuing && d.kind == .sysexStart then { c with restarted := c.restarted + 1 } else c

/-- Processes one fragment. -/
def process (a : Assembler) (event : RawEvent) : Assembler :=
  let (timestamp, stamper) := a.stamper.stamp event.time
  let a := { a with stamper }
  if event.fragment = [] then
    { a with counters := { a.counters with dropped := a.counters.dropped + 1 } }
  else
    let (decision, continuing) := a.filter.apply a.continuing event.fragment
    let counters := countRestarted (countSuppressed a.counters decision) a.continuing decision
    let draft := if a.continuing then a.draft else a.draft.clear
    let draft := if decision.accumulate then draft.append event.fragment else draft
    let a := { a with continuing, counters, draft }
    if decision.deliver then
      let (message, draft) := draft.finish timestamp
      { a with draft }.emit message
    else a

/-- Forgets the message being built if the gate was opened since the last batch. -/
def notice (a : Assembler) (opening : UInt64) : Assembler :=
  if opening = a.opening then a
  else { a with opening, continuing := false, draft := a.draft.clear }

/-- Processes fragments in order. -/
def processAll (a : Assembler) (events : List RawEvent) : Assembler :=
  events.foldl process a

/-- Processes a batch that a driver delivered on a port, if the gate lets it in. -/
def accept (a : Assembler) (gate : Gate) (port : PortId) (events : List RawEvent) : Assembler :=
  if gate.active = some port then (a.notice gate.opening).processAll events
  else { a with counters := { a.counters with inactive := a.counters.inactive + 1 } }

/-- Takes the oldest message out of the sink's queue. -/
def receive (a : Assembler) : Option Message × Assembler :=
  let (message, sink) := a.sink.receive
  (message, { a with sink })

/-- Takes all messages out of the sink's queue. -/
def receiveAll (a : Assembler) : List Message × Assembler :=
  let (messages, sink) := a.sink.receiveAll
  (messages, { a with sink })

/-- Takes account of the messages that client code was called with. -/
def takeHanded (a : Assembler) : List Message × Assembler :=
  let (messages, sink) := a.sink.takeHanded
  (messages, { a with sink })

/-- Gives the sink's queue up. -/
def closeQueue (a : Assembler) : Assembler := { a with sink := a.sink.close }

end Assembler

end PatchBay
