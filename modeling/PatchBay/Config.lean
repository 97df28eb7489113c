import PatchBay.Input
import PatchBay.Output

/-!
# Configurations

A configuration chooses a backend and sets up the input and the output that commands open. Texts of
several formats can describe one. A format says what its values can be taken for; which settings
there are, what they are called and what holds where one is missing is the same in all formats.
-/

namespace PatchBay

/-- A configuration. -/
structure Config where
  /-- The backend to open endpoints on. -/
  backend : Backend := .loopback
  /-- What to log, unless the environment tells. -/
  logLevel : String := "info"
  /-- How inputs are set up. -/
  input : Input.Settings := {}
  /-- How outputs are set up. -/
  output : Output.Settings := {}
deriving Repr, DecidableEq, Inhabited

namespace Config

/-- Why a well-formed text describes no configuration. -/
inductive Mismatch where
  /-- A section that is none, with its name. -/
  | notASection (name : String)
  /-- A setting that is given twice. -/
  | repeated (name : String)
  /-- A setting whose value is not of its kind. -/
  | badValue (name : String)
deriving Repr, DecidableEq

/-- The mismatch as it is told to a person. -/
def Mismatch.message : Mismatch → String
  | .notASection name => name ++ ": expected a section"
  | .repeated name => "duplicate field " ++ name
  | .badValue name => name ++ ": invalid value"

/-! ## Formats -/

/-- What the values of a format, which are of type `ν`, can be taken for. -/
structure Format (ν : Type) where
  /-- A text. -/
  text? : ν → Option String
  /-- A count. -/
  count? : ν → Option Nat
  /-- A truth value. -/
  flag? : ν → Option Bool
  /-- A backend. -/
  backend? : ν → Option Backend
  /-- A section, whose values have names. -/
  entries? : ν → Option (List (String × ν))
  /-- A section, whose values stand in the order of their names. -/
  items? : ν → Option (List ν)
  /-- Whether a value makes sense without knowing what it is for. -/
  isData : ν → Bool

namespace Format

variable {ν α : Type} (f : Format ν)

/-- The values of a section, by their names. Values that stand in order may be more than there are
names. -/
def section? (name : String) (names : List String) (v : ν) :
    Except Mismatch (List (String × ν)) :=
  match f.entries? v, f.items? v with
  | some entries, _ => .ok entries
  | none, some items => .ok (names.zip items)
  | none, none => .error (.notASection name)

/-- The setting with a name, or what holds where it is missing. -/
def setting (name : String) (take : ν → Except Mismatch α) (default : α)
    (entries : List (String × ν)) : Except Mismatch α :=
  match entries.filter (·.1 == name) with
  | [] => .ok default
  | [(_, v)] => take v
  | _ => .error (.repeated name)

/-- The setting of a kind that a value can be taken for. -/
def value (name : String) (take? : ν → Option α) (default : α)
    (entries : List (String × ν)) : Except Mismatch α :=
  setting name (fun v => (take? v).elim (.error (.badValue name)) .ok) default entries

/-- The names of the settings of inputs. -/
def inputNames : List String :=
  ["client_name", "port_name", "ignore_sysex", "ignore_timing", "ignore_sensing", "queue_capacity"]

/-- The names of the settings of outputs. -/
def outputNames : List String := ["client_name", "port_name", "encoder_capacity"]

/-- The names of all settings and sections. -/
def rootNames : List String := ["backend", "log_level", "input", "output"]

/-- How a section sets up inputs. Its values always have names, and also those that are not asked
for have to make sense. -/
def input (v : ν) : Except Mismatch Input.Settings := do
  let some entries := f.entries? v | throw (.notASection "input")
  match entries.find? fun e => !inputNames.contains e.1 && !f.isData e.2 with
  | some e => throw (.badValue e.1)
  | none =>
    let d : Input.Settings := {}
    return {
      clientName := ← value "client_name" f.text? d.clientName entries
      portName := ← value "port_name" f.text? d.portName entries
      filter := {
        ignoreSysex := ← value "ignore_sysex" f.flag? d.filter.ignoreSysex entries
        ignoreTiming := ← value "ignore_timing" f.flag? d.filter.ignoreTiming entries
        ignoreSensing := ← value "ignore_sensing" f.flag? d.filter.ignoreSensing entries }
      queueCapacity := ← value "queue_capacity" f.count? d.queueCapacity entries }

/-- How a section sets up outputs. -/
def output (v : ν) : Except Mismatch Output.Settings := do
  let entries ← f.section? "output" outputNames v
  let d : Output.Settings := {}
  return {
    clientName := ← value "client_name" f.text? d.clientName entries
    portName := ← value "port_name" f.text? d.portName entries
    encoderCapacity := ← value "encoder_capacity" f.count? d.encoderCapacity entries }

/-- The configuration that a value describes. -/
def config (v : ν) : Except Mismatch Config := do
  let entries ← f.section? "configuration" rootNames v
  let d : Config := {}
  return {
    backend := ← value "backend" f.backend? d.backend entries
    logLevel := ← value "log_level" f.text? d.logLevel entries
    input := ← setting "input" f.input d.input entries
    output := ← setting "output" f.output d.output entries }

end Format

end Config

end PatchBay
