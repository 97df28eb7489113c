import PatchBay.Driver.Error

/-!
# Errors and warnings of endpoints
-/

namespace PatchBay

/-- Why an operation on an endpoint's port failed. The endpoint is left in a consistent state. -/
inductive PortError where
  /-- The service is not running; the same call may succeed later. -/
  | driverUnavailable
  /-- There is no port at this place in the list. -/
  | invalidPortIndex (index count : Nat)
  /-- `client:port` would be longer than the service accepts. -/
  | invalidName (name : String) (limit : Nat)
  /-- The operation needs a registered port. -/
  | notOpen
  /-- The service has no notion of the operation. -/
  | unsupported (operation : String)
  /-- Any other failure of the driver. -/
  | driver (error : DriverError)
deriving Repr, DecidableEq

namespace PortError

/-- What a driver's error means for an endpoint. -/
def ofDriver : DriverError → PortError
  | .unavailable _ => .driverUnavailable
  | .unsupported operation => .unsupported operation
  | e => .driver e

/-- The error as it is told to a person. -/
def message : PortError → String
  | .driverUnavailable => "MIDI driver unavailable"
  | .invalidPortIndex index count =>
    "invalid port index " ++ toString index ++ " (" ++ toString count ++ " ports available)"
  | .invalidName name limit =>
    "port name '" ++ name ++ "' is too long (limit " ++ toString limit ++ " including client name)"
  | .notOpen => "no port is open"
  | .unsupported operation => operation ++ " is not supported by this backend"
  | .driver e => e.message

end PortError

/-- Why a message was not sent. Events that went out before the failure are not recalled; `offset`
counts the bytes that they used up. -/
inductive SendError where
  /-- There is no port to send on. -/
  | portClosed
  /-- The encoder cannot be made large enough. -/
  | resize (required : Nat)
  /-- The bytes from here on are no event. -/
  | encode (offset : Nat) (source : DriverError)
  /-- The driver used up nothing. -/
  | stalled (offset : Nat)
  /-- The driver could not take the event. -/
  | transmit (offset : Nat) (source : DriverError)
  /-- The driver could not send what was queued. -/
  | drain (source : DriverError)
deriving Repr, DecidableEq

namespace SendError

/-- What a driver's failure to take an event means for the message. -/
def ofTransmit (offset : Nat) (e : DriverError) : SendError :=
  if e.isEncoding then .encode offset e else .transmit offset e

/-- The error as it is told to a person. -/
def message : SendError → String
  | .portClosed => "no output port is open"
  | .resize required =>
    "could not grow the encoder buffer to " ++ toString required ++ " bytes"
  | .encode offset source =>
    "could not encode MIDI data at byte " ++ toString offset ++ ": " ++ source.message
  | .stalled offset => "MIDI encoder consumed nothing at byte " ++ toString offset
  | .transmit offset source =>
    "could not transmit MIDI data at byte " ++ toString offset ++ ": " ++ source.message
  | .drain source => "could not drain MIDI output: " ++ source.message

/-- The error that stands behind this one, where it is told as a cause of its own. -/
def cause? : SendError → Option DriverError
  | .encode _ source | .transmit _ source => some source
  | _ => none

end SendError

/-- What an endpoint logs and goes on from. -/
inductive Warning where
  /-- No client could be opened. -/
  | driverNotRunning
  /-- The port is connected already. -/
  | alreadyConnected
  /-- There is nothing to connect to. -/
  | noPorts
  /-- The service has no notion of the operation. -/
  | notImplemented (operation : String)
deriving Repr, DecidableEq

/-- The warning as it is logged. -/
def Warning.message : Warning → String
  | .driverNotRunning => "MIDI driver not running?"
  | .alreadyConnected => "a valid connection already exists"
  | .noPorts => "no MIDI ports found"
  | .notImplemented operation => operation ++ " is not implemented for this backend"

end PatchBay
