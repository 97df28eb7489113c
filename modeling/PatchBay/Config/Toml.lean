import PatchBay.Config
import PatchBay.Toml.Document

/-!
# Configurations in TOML

Each value of TOML is of one kind, and can be taken for nothing else. Only sections can be written
in several ways: as tables, as arrays of their values, and, where nothing is set, as a date or a
time.
-/

namespace PatchBay.Config

open PatchBay.Toml

/-- The string that a value is. -/
def valueText? : Value → Option String
  | .text s => some s
  | _ => none

/-- The count that a value is. -/
def valueCount? : Value → Option Nat
  | .int n => if 0 ≤ n then some n.toNat else none
  | _ => none

/-- The truth value that a value is. -/
def valueFlag? : Value → Option Bool
  | .bool b => some b
  | _ => none

/-- Whether a value holds nothing. -/
def valueIsEmpty : Value → Bool
  | .array items => items.isEmpty
  | .table _ entries => entries.isEmpty
  | _ => false

/-- The backend that a string names, or that the only key of a table names; its value is empty. -/
def valueBackend? : Value → Option Backend
  | .text s => Backend.ofName? s
  | .table _ [(key, v)] => if valueIsEmpty v then Backend.ofName? key else none
  | _ => none

/-- The entries of a table. A date or a time counts as a table without any. -/
def valueEntries? : Value → Option (List (String × Value))
  | .table _ entries => some entries
  | .moment => some []
  | _ => none

/-- The items of an array. -/
def valueItems? : Value → Option (List Value)
  | .array items => some items
  | .tables elements => some (elements.map (.table .header))
  | _ => none

/-- TOML as a format of configurations. -/
def tomlFormat : Format Value where
  text? := valueText?
  count? := valueCount?
  flag? := valueFlag?
  backend? := valueBackend?
  entries? := valueEntries?
  items? := valueItems?
  isData := fun _ => true

/-- The configuration that a TOML text describes, or what is wrong with the text. -/
def readToml (text : String) : Except String Config :=
  match Toml.parse text with
  | .error problem => .error problem.message
  | .ok root => (tomlFormat.config root.toValue).mapError Mismatch.message

end PatchBay.Config
