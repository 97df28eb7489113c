import PatchBay.Encoder
import PatchBay.Text.Literal

/-!
# Errors of a driver
-/

namespace PatchBay

/-- Why a driver did not do what it was asked to. -/
inductive DriverError where
  /-- The service is not running; it may be later. -/
  | unavailable (reason : String)
  /-- The service has no notion of the operation. -/
  | unsupported (operation : String)
  /-- The bytes are no events. -/
  | malformed (reason : String)
  /-- The bytes end before the event does. -/
  | incomplete
  /-- A handle or an address does not name a port. -/
  | unknownPort
  /-- Anything else that the service may complain about. -/
  | backend (reason : String)
deriving Repr, DecidableEq

namespace DriverError

/-- The error of a driver whose encoder finds no event. -/
def ofEncode (e : EncodeError) : DriverError :=
  match e.reason? with
  | none => .incomplete
  | some reason => .malformed reason

/-- The error as it is told to a person. -/
def message : DriverError → String
  | .unavailable reason => "MIDI driver unavailable: " ++ reason
  | .unsupported operation => operation ++ " is not supported by this backend"
  | .malformed reason => "malformed MIDI data: " ++ reason
  | .incomplete => "incomplete MIDI message"
  | .unknownPort => "unknown MIDI port"
  | .backend reason => "backend error: " ++ reason

/-- The name of the cause. -/
def name : DriverError → String
  | .unavailable _ => "Unavailable"
  | .unsupported _ => "Unsupported"
  | .malformed _ => "Malformed"
  | .incomplete => "Incomplete"
  | .unknownPort => "UnknownPort"
  | .backend _ => "Backend"

/-- The error as a literal. -/
def describe (e : DriverError) : String :=
  match e with
  | .unavailable text | .unsupported text | .backend text =>
    Literal.tuple e.name (Literal.quoted text)
  | .malformed reason => Literal.record e.name [Literal.field "reason" (Literal.quoted reason)]
  | .incomplete | .unknownPort => e.name

/-- A refused event handler as a literal; of the handler itself nothing is shown. -/
def describeRejection (e : DriverError) : String :=
  Literal.record "HandlerRejected" [Literal.field "error" e.describe, ".."]

/-- Whether the bytes are to blame, rather than the service. -/
def isEncoding : DriverError → Bool
  | .malformed _ | .incomplete => true
  | _ => false

theorem isEncoding_ofEncode (e : EncodeError) : (ofEncode e).isEncoding = true := by
  cases e <;> rfl

end DriverError

end PatchBay
