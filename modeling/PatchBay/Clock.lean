/-!
# Monotonic time and delta stamps

A clock counts nanoseconds from its own start in a 64-bit word. A message is stamped with the time
since the raw event before it, in seconds; the first message that is handed out is stamped zero.
The baseline moves with every raw event, whatever becomes of it.
-/

namespace PatchBay

/-- A reading of a clock, in nanoseconds from the clock's start. -/
structure Time where
  /-- The nanoseconds. -/
  nanos : UInt64 := 0
deriving Repr, DecidableEq, Inhabited

namespace Time

/-- The time at so many microseconds, or the latest time there is. -/
def ofMicros (micros : UInt64) : Time :=
  if micros.toNat * 1000 < Nat.pow 2 64 then ⟨micros * 1000⟩ else ⟨0 - 1⟩

/-- The nanoseconds that passed from `earlier` to `later`, none if `later` is before `earlier`. -/
def elapsed (earlier later : Time) : UInt64 :=
  if earlier.nanos ≤ later.nanos then later.nanos - earlier.nanos else 0

/-- The seconds that passed from `earlier` to `later`. -/
def delta (earlier later : Time) : Float :=
  (elapsed earlier later).toFloat * 1e-9

/-- The time some seconds and nanoseconds later. The clock's word wraps around. -/
def advance (t : Time) (secs nanos : UInt64) : Time :=
  ⟨t.nanos + (secs * 1000000000 + nanos)⟩

end Time

/-- The stamping state of one input. -/
structure Stamper where
  /-- The reading at the last raw event. -/
  baseline : Time := {}
  /-- Whether no message has been handed out yet. -/
  pristine : Bool := true
deriving Repr, DecidableEq, Inhabited

namespace Stamper

/-- The stamp of a raw event that is processed at `now`, which becomes the baseline. -/
def stamp (s : Stamper) (now : Time) : Float × Stamper :=
  (if s.pristine then 0.0 else Time.delta s.baseline now, { s with baseline := now })

/-- Notes that a message was handed out. -/
def markDelivered (s : Stamper) : Stamper := { s with pristine := false }

@[simp] theorem stamp_baseline (s : Stamper) (now : Time) :
    (s.stamp now).2.baseline = now := rfl

@[simp] theorem stamp_pristine (s : Stamper) (now : Time) :
    (s.stamp now).2.pristine = s.pristine := rfl

@[simp] theorem markDelivered_baseline (s : Stamper) :
    s.markDelivered.baseline = s.baseline := rfl

@[simp] theorem markDelivered_pristine (s : Stamper) : s.markDelivered.pristine = false := rfl

end Stamper

end PatchBay
