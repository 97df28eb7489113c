import PatchBay.Byte

/-!
# Tags

A tag says what a node is. YAML has tags of its own for the kinds of plain scalars; a custom tag
starts with an exclamation mark and has the rest for its name. A tag is made of bytes, which need
not be a text.
-/

namespace PatchBay.Yaml

/-- What a tag says. -/
inductive Tag where
  /-- Null. -/
  | null
  /-- A truth value. -/
  | bool
  /-- A whole number. -/
  | int
  /-- A number. -/
  | float
  /-- Something that only the reader of the document knows. -/
  | custom (name : String)
  /-- Anything else. -/
  | other
deriving Repr, DecidableEq

namespace Tag

/-- What the tags of YAML's own start with. -/
def stem : String := "tag:yaml.org,2002:"

/-- What a tag says that is a text. -/
def ofText (text : String) : Tag :=
  match text.toList with
  | '!' :: name => .custom (String.ofList name)
  | _ =>
    if text == stem ++ "null" then .null
    else if text == stem ++ "bool" then .bool
    else if text == stem ++ "int" then .int
    else if text == stem ++ "float" then .float
    else .other

/-- What a tag says. One that starts with an exclamation mark but is no text says nothing. -/
def ofBytes? (bytes : Bytes) : Option Tag :=
  match String.fromUTF8? ⟨bytes.toArray⟩ with
  | some text => some (ofText text)
  | none => if bytes.head? == some '!'.toUInt8 then none else some .other

/-- The name of a custom tag. -/
def name? : Tag → Option String
  | .custom name => some name
  | _ => none

end Tag

end PatchBay.Yaml
