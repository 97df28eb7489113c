import PatchBay.Yaml.Tag
import PatchBay.Yaml.Token

/-!
# YAML documents

A document is a tree of scalars, sequences, mappings and aliases. It is built from tokens. A node
may carry a tag, whose handle stands for the beginning of a name. Where a key, a value or an entry
is left out, there is an empty scalar.

A node may carry an anchor, too, and is put into a slot by it. The slot's number is how many names
anchors have had before it. An alias stands for the slot of the last node before it with its name,
and so for the last node of the document in that slot, wherever that is and whatever its name.
-/

namespace PatchBay.Yaml

/-- A node of a document. -/
inductive Node where
  /-- A scalar. -/
  | scalar (tag : Option Tag) (style : Style) (text : String)
  /-- A sequence. -/
  | sequence (tag : Option Tag) (items : List Node)
  /-- A mapping, in the order of the text. -/
  | mapping (tag : Option Tag) (entries : List (Node × Node))
  /-- An alias of the node in a slot. -/
  | alias (slot : Nat)
deriving Repr

/-- A document. -/
structure Document where
  /-- The node that holds all others. -/
  root : Node
  /-- The nodes in slots, in the order of the text. -/
  placed : List (Nat × Node) := []
deriving Repr

namespace Node

/-- What stands where nothing was written. -/
def empty : Node := .scalar none .plain ""

mutual

/-- The number of marks that a node consists of: one for a scalar or an alias, and two, besides what
is inside, for a collection. -/
def size : Node → Nat
  | .scalar .. | .alias _ => 1
  | .sequence _ items => 2 + itemsSize items
  | .mapping _ entries => 2 + entriesSize entries

/-- The number of marks that nodes consist of. -/
def itemsSize : List Node → Nat
  | [] => 0
  | n :: rest => n.size + itemsSize rest

/-- The number of marks that the entries of a mapping consist of. -/
def entriesSize : List (Node × Node) → Nat
  | [] => 0
  | (key, value) :: rest => key.size + value.size + entriesSize rest

end

/-! ## Directives -/

/-- Whether a token is a directive. -/
def isDirective : Token → Bool
  | .version .. | .tagHandle .. => true
  | _ => false

/-- Whether directives tell the version of YAML at most once, and it is a known one. -/
def versionIsKnown (directives : List Token) : Bool :=
  let versions := directives.filterMap fun
    | .version major minor => some (major, minor)
    | _ => none
  match versions with
  | [] => true
  | [(major, minor)] => major == 1 && (minor == 1 || minor == 2)
  | _ => false

/-- What handles of tags stand for: those that directives declare, and two that need not be. -/
def handles (directives : List Token) : List (String × Bytes) :=
  (directives.filterMap fun
    | .tagHandle handle meaning => some (handle, meaning)
    | _ => none) ++ [("!", "!".toUTF8.toList), ("!!", Tag.stem.toUTF8.toList)]

/-- Whether no handle is declared twice. -/
def handlesAreDistinct : List Token → Bool
  | [] => true
  | .tagHandle handle _ :: rest =>
    rest.all (fun | .tagHandle other _ => handle != other | _ => true) && handlesAreDistinct rest
  | _ :: rest => handlesAreDistinct rest

/-! ## Reading tokens -/

/-- What is known in the middle of a document. -/
structure Rest where
  /-- The tokens to come. -/
  tokens : List Token
  /-- What the handles of tags stand for. -/
  handles : List (String × Bytes)
  /-- The names of anchors so far, each with its last slot. -/
  names : List (String × Nat) := []
  /-- The nodes in slots, in the order in which they start. -/
  placed : List (Nat × Node) := []

/-- Reading a part of a document. -/
abbrev Read := StateT Rest (Except Problem)

/-- The next token. -/
def peek : Read (Option Token) := do return (← get).tokens.head?

/-- Takes the next token. -/
def advance : Read Unit := modify fun r => { r with tokens := r.tokens.tail }

/-- Takes the next token if it is this one. Gives whether it is. -/
def accept (t : Token) : Read Bool := do
  if (← peek) == some t then
    advance
    return true
  else return false

/-- Takes the next token, which has to be this one. -/
def expect (t : Token) : Read Unit := do
  if !(← accept t) then throw .unexpectedToken

/-- Whether the next token is one of these. -/
def sees (ts : List Token) : Read Bool := do return (← peek).any ts.contains

/-- Takes an anchor, if one is next. -/
def anchor? : Read (Option String) := do
  let some (.anchor name) ← peek | return none
  advance
  return some name

/-- Takes a tag, if one is next. Gives it with what its handle stands for. -/
def tag? : Read (Option Bytes) := do
  let some (.tag handle rest) ← peek | return none
  advance
  if handle.isEmpty then return some rest
  match (← get).handles.lookup handle with
  | some meaning => return some (meaning ++ rest)
  | none => throw .tagForm

/-- Takes an anchor and a tag, in either order. -/
def properties : Read (Option String × Option Bytes) := do
  match ← anchor? with
  | some name => return (some name, ← tag?)
  | none =>
    let tag ← tag?
    return (← if tag.isSome then anchor? else pure none, tag)

/-- The alias of a name. -/
def aliasOf (name : String) : Read Node := do
  match (← get).names.lookup name with
  | some slot => return .alias slot
  | none => throw .unknownAnchor

/-- Puts the node that is read next into a slot, if it has an anchor. Gives where in the order of
the text it stands. -/
def place (name : Option String) : Read (Option (Nat × Nat)) := do
  let some name := name | return none
  let r ← get
  let slot := r.names.length
  set { r with
    names := (name, slot) :: r.names.filter (·.1 != name)
    placed := r.placed ++ [(slot, empty)] }
  return some (r.placed.length, slot)

/-- Reads a node that may have an anchor. -/
def anchored (name : Option String) (body : Read Node) : Read Node := do
  let place ← place name
  let node ← body
  if let some (index, slot) := place then
    modify fun r => { r with placed := r.placed.set index (slot, node) }
  return node

mutual

/-- Reads a node. Where `block` holds it may be a block collection, and where `indentless` holds a
block sequence that is not indented. -/
def read (block indentless : Bool) : Nat → Read Node
  | 0 => throw .tooDeep
  | fuel + 1 => do
    match ← peek with
    | some (.alias name) =>
      advance
      aliasOf name
    | _ =>
      let (name, bytes) ← properties
      let tag := bytes.bind Tag.ofBytes?
      anchored name do
        match ← peek with
        | some (.scalar text style) =>
          advance
          return .scalar tag style text
        | some .flowSequenceStart =>
          advance
          .sequence tag <$> flowItems true fuel
        | some .flowMappingStart =>
          advance
          .mapping tag <$> flowEntries true fuel
        | next =>
          if indentless && next == some .blockEntry then .sequence tag <$> indentlessItems fuel
          else if block && next == some .blockSequenceStart then
            advance
            .sequence tag <$> blockItems fuel
          else if block && next == some .blockMappingStart then
            advance
            .mapping tag <$> blockEntries fuel
          else if name.isSome || bytes.isSome then return .scalar tag .plain ""
          else throw .unexpectedToken

/-- Reads a node, or nothing where one of some tokens is next. -/
def readUnless (ends : List Token) (block indentless : Bool) : Nat → Read Node
  | 0 => throw .tooDeep
  | fuel + 1 => do
    if ← sees ends then return empty else read block indentless fuel

/-- Reads the items of a block sequence. -/
def blockItems : Nat → Read (List Node)
  | 0 => throw .tooDeep
  | fuel + 1 => do
    if ← accept .blockEntry then
      let item ← readUnless [.blockEntry, .blockEnd] true false fuel
      return item :: (← blockItems fuel)
    else
      expect .blockEnd
      return []

/-- Reads the items of a block sequence that is not indented, whose end nothing marks. -/
def indentlessItems : Nat → Read (List Node)
  | 0 => throw .tooDeep
  | fuel + 1 => do
    if ← accept .blockEntry then
      let item ← readUnless [.blockEntry, .key, .value, .blockEnd] true false fuel
      return item :: (← indentlessItems fuel)
    else return []

/-- Reads the entries of a block mapping. -/
def blockEntries : Nat → Read (List (Node × Node))
  | 0 => throw .tooDeep
  | fuel + 1 => do
    if ← accept .key then
      let ends := [.key, .value, .blockEnd]
      let key ← readUnless ends true true fuel
      let value ← if ← accept .value then readUnless ends true true fuel else pure empty
      return (key, value) :: (← blockEntries fuel)
    else
      expect .blockEnd
      return []

/-- Reads the items of a flow sequence. A key in it opens a mapping of one entry; where that key is
empty, it takes up the token after it. -/
def flowItems (first : Bool) : Nat → Read (List Node)
  | 0 => throw .tooDeep
  | fuel + 1 => do
    if ← accept .flowSequenceEnd then return []
    if !first then expect .flowEntry
    if ← accept .flowSequenceEnd then return []
    let item ←
      if ← accept .key then do
        let ends := [.flowEntry, .flowSequenceEnd]
        let key ←
          if ← sees (.value :: ends) then do
            advance
            pure empty
          else read false false fuel
        let value ← if ← accept .value then readUnless ends false false fuel else pure empty
        pure (.mapping none [(key, value)])
      else read false false fuel
    return item :: (← flowItems false fuel)

/-- Reads the entries of a flow mapping. -/
def flowEntries (first : Bool) : Nat → Read (List (Node × Node))
  | 0 => throw .tooDeep
  | fuel + 1 => do
    if ← accept .flowMappingEnd then return []
    if !first then expect .flowEntry
    if ← accept .flowMappingEnd then return []
    let ends := [.flowEntry, .flowMappingEnd]
    let entry ←
      if ← accept .key then do
        let key ← readUnless (.value :: ends) false false fuel
        let value ← if ← accept .value then readUnless ends false false fuel else pure empty
        pure (key, value)
      else do
        let key ← read false false fuel
        pure (key, empty)
    return entry :: (← flowEntries false fuel)

end

/-- Whether a document ends before this token. -/
def endsDocument (t : Token) : Bool := isDirective t || t == .documentStart || t == .documentEnd

end Node

/-! ## Documents -/

namespace Document

/-- The only document that some tokens hold, if they hold one. -/
def ofTokens? (tokens : List Token) : Except Problem (Option Document) := do
  if tokens.isEmpty then return none
  let directives := tokens.takeWhile Node.isDirective
  let rest := tokens.dropWhile Node.isDirective
  let marked := rest.head? == some .documentStart
  if !Node.versionIsKnown directives || !Node.handlesAreDistinct directives then
    throw .directiveForm
  if !marked && !directives.isEmpty then throw .unexpectedToken
  let rest := if marked then rest.tail else rest
  let start : Node.Rest := { tokens := rest, handles := Node.handles directives }
  let (root, after) ←
    if marked && rest.head?.all Node.endsDocument then pure (Node.empty, start)
    else (Node.read true false (4 * rest.length + 8)).run start
  if after.tokens.all (· == .documentEnd) then return some { root, placed := after.placed }
  else throw .moreDocuments

/-- The only document that a text holds, if it holds one. -/
def ofText? (text : String) : Except Problem (Option Document) := do
  ofTokens? (← Yaml.tokens text)

/-- The node that an alias stands for, or the node itself if it is none. -/
def follow (d : Document) : Node → Node
  | .alias slot => (d.placed.reverse.lookup slot).getD Node.empty
  | n => n

end Document

end PatchBay.Yaml
