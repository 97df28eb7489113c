import PatchBay.Config
import PatchBay.Text.Blank
import PatchBay.Yaml.Node
import PatchBay.Yaml.Printer

/-!
# Configurations in YAML

Every scalar can be taken for a text, whatever it means. A count or a truth value has to be written
as one. A section that is left empty is one without settings, and so is a text without a document.

Aliases are followed in the settings that there are. As one may stand for many others, a document
allows for a hundred of them for each mark that it consists of.
-/

namespace PatchBay.Config

open PatchBay.Yaml

/-! ## Nodes -/

/-- Whether a scalar makes sense: one with a tag of YAML's own has to be what the tag says, a whole
number has to fit into 64 bits, and there is no custom tag. -/
def scalarIsData (tag : Option Tag) (style : Style) (s : String) : Bool :=
  match tag with
  | some .null => isNullWord s
  | some .bool => (bool? s).isSome
  | some .int => (integer? s.toList).any isWord64
  | some .float => isFloat s
  | some (.custom _) => false
  | some .other => true
  | none =>
    if style == .plain then
      match Meaning.ofPlain s with
      | .int n => isWord64 n
      | _ => true
    else true

/-- Whether a node makes sense by itself, with at most `depth` collections inside one another. -/
def nodeIsData (d : Document) : Nat → Node → Bool
  | depth, n =>
    match d.follow n, depth with
    | .scalar tag style s, _ => scalarIsData tag style s
    | .sequence tag items, depth + 1 =>
      (tag.bind Tag.name?).isNone && items.all (nodeIsData d depth)
    | .mapping tag entries, depth + 1 =>
      (tag.bind Tag.name?).isNone
        && entries.all fun e => nodeIsData d depth e.1 && nodeIsData d depth e.2
    | _, _ => false

/-- The text of a scalar. -/
def nodeText? : Node → Option String
  | .scalar _ _ s => some s
  | _ => none

/-- The count that a scalar without quotes stands for. A literal block may have the tag of a whole
number instead. -/
def nodeCount? : Node → Option Nat
  | .scalar tag style s =>
    if style == .plain || (style == .literal && tag == some .int) then
      (natural? s.toList).filter (· ≤ Decimal.maxWord)
    else none
  | _ => none

/-- The truth value that a scalar stands for, which has no quotes or the tag of truth values. -/
def nodeFlag? : Node → Option Bool
  | .scalar tag style s =>
    if tag == some .bool || (tag.isNone && style == .plain) then bool? s else none
  | _ => none

/-- The backend that a scalar names, or that the custom tag of an empty scalar names. -/
def nodeBackend? : Node → Option Backend
  | .scalar tag style s =>
    match tag.bind Tag.name? with
    | some name =>
      if style == .plain && (s.isEmpty || isNullWord s) then Backend.ofName? name else none
    | none => Backend.ofName? s
  | _ => none

/-- The entries of a mapping. An empty scalar is one without entries. -/
def nodeEntries? : Node → Option (List (Node × Node))
  | .mapping _ entries => some entries
  | .scalar _ .plain s => if s.isEmpty then some [] else none
  | _ => none

/-- The entries of a section, whose keys are scalars. -/
def sectionEntries? (d : Document) (n : Node) : Option (List (String × Node)) :=
  (nodeEntries? (d.follow n)).bind fun entries =>
    entries.mapM fun e => (nodeText? (d.follow e.1)).map fun key => (key, e.2)

/-- YAML as a format of configurations: the nodes of a document. -/
def yamlFormat (d : Document) : Format Node where
  text? n := nodeText? (d.follow n)
  count? n := nodeCount? (d.follow n)
  flag? n := nodeFlag? (d.follow n)
  backend? n := nodeBackend? (d.follow n)
  entries? := sectionEntries? d
  items? _ := none
  isData := nodeIsData d 126

/-! ## Aliases -/

/-- Following aliases, as long as there are some left to follow. -/
abbrev Pursuit := StateT Nat Option

/-- Follows a node if it is an alias. -/
def pursue (d : Document) : Node → Pursuit Node
  | .alias slot => fun left =>
    match left with
    | 0 => none
    | left + 1 => some (d.follow (.alias slot), left)
  | n => pure n

/-- Follows a node and all inside of it, with at most `depth` collections inside one another. -/
def pursueAll (d : Document) : Nat → Node → Pursuit Unit
  | depth, n => do
    match ← pursue d n, depth with
    | .sequence _ items, depth + 1 => items.forM (pursueAll d depth)
    | .mapping _ entries, depth + 1 =>
      entries.forM fun e => do
        pursueAll d depth e.1
        pursueAll d depth e.2
    | _, _ => return

/-- Follows the keys of a section, and goes on to the values by their names. -/
def pursueSection (d : Document) (goOn : String → Node → Pursuit Unit) (n : Node) :
    Pursuit Unit := do
  for (key, value) in (nodeEntries? (← pursue d n)).getD [] do
    if let some name := nodeText? (← pursue d key) then goOn name value

/-- Follows a document as far as it is read: all that there is about inputs, and what has a name in
the other sections. -/
def pursueRoot (d : Document) : Pursuit Unit :=
  pursueSection d (fun name value =>
    if name == "input" then pursueAll d 127 value
    else if name == "output" then
      pursueSection d (fun name value =>
        if Format.outputNames.contains name then pursueAll d 0 value else return) value
    else if Format.rootNames.contains name then pursueAll d 0 value
    else return) d.root

/-- Whether a document has few enough aliases to follow. -/
def isBrief (d : Document) : Bool := (pursueRoot d (100 * d.root.size)).isSome

/-- The configuration that a YAML text describes, or what is wrong with the text. -/
def readYaml (text : String) : Except String Config :=
  if text.toList.all Text.isBlank then .ok {}
  else
    match Document.ofText? text with
    | .error problem => .error problem.message
    | .ok none => .ok {}
    | .ok (some d) =>
      if isBrief d then ((yamlFormat d).config d.root).mapError Mismatch.message
      else .error Problem.tooManyAliases.message

/-! ## Writing -/

/-- The word for a truth value. -/
def flagText (b : Bool) : String := if b then "true" else "false"

/-- The YAML text that describes a configuration. -/
def toYaml (c : Config) : String :=
  let entry := Printer.entry
  let text (indent : Nat) (key value : String) : String :=
    entry indent key (Printer.text (indent + 2) value)
  String.join
    [text 0 "backend" c.backend.name,
      text 0 "log_level" c.logLevel,
      "input:\n",
      text 2 "client_name" c.input.clientName,
      text 2 "port_name" c.input.portName,
      entry 2 "ignore_sysex" (flagText c.input.filter.ignoreSysex),
      entry 2 "ignore_timing" (flagText c.input.filter.ignoreTiming),
      entry 2 "ignore_sensing" (flagText c.input.filter.ignoreSensing),
      entry 2 "queue_capacity" (toString c.input.queueCapacity),
      "output:\n",
      text 2 "client_name" c.output.clientName,
      text 2 "port_name" c.output.portName,
      entry 2 "encoder_capacity" (toString c.output.encoderCapacity)]

end PatchBay.Config
