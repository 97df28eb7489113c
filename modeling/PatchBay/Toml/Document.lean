import PatchBay.Toml.Scalar

/-!
# TOML documents

A document consists of lines: headers of tables, headers of elements of arrays of tables, and keys
with their values. A key belongs to the table of the last header before it. Comments may end each
line.
-/

namespace PatchBay.Toml

/-- Reading a part of a document. -/
abbrev Read := StateT (List Char) (Except Problem)

namespace Read

/-- The next character. -/
def peek : Read (Option Char) := do return (← get).head?

/-- Takes the next character if it is this one. Gives whether it is. -/
def accept (c : Char) : Read Bool := do
  if (← peek) == some c then
    modify List.tail
    return true
  else return false

/-- Takes the next character, which has to be this one. -/
def expect (c : Char) : Read Unit := do
  if !(← accept c) then throw .unexpected

/-- Skips blanks. -/
def blanks : Read Unit := modify (List.dropWhile isBlank)

/-- Skips a comment, if one is next. -/
def comment : Read Unit := do
  if (← peek) == some '#' then modify (List.dropWhile isLineChar)

/-- Skips the end of a line, which may be that of the text. -/
def lineEnd : Read Unit := do
  blanks
  comment
  match newline? (← get) with
  | some rest => set rest
  | none => if !(← get).isEmpty then throw .unexpected

/-- Skips blanks, comments and line breaks. -/
def spacing : Nat → Read Unit
  | 0 => pure ()
  | fuel + 1 => do
    modify dropSpacing
    if (← peek) == some '#' then
      comment
      match newline? (← get) with
      | some rest =>
        set rest
        spacing fuel
      | none => throw .unexpected

/-- How many collections may stand inside one another: as many parts may a key have, and as deep may
arrays and inline tables go. -/
def maxDepth : Nat := 79

/-! ## Keys -/

/-- Reads a key, or one part of a dotted key. -/
def simpleKey : Read String := do
  match ← peek with
  | some '"' =>
    let (key, rest) ← lineString false (← get).length [] (← get).tail
    set rest
    return key
  | some '\'' =>
    let (key, rest) ← lineString true (← get).length [] (← get).tail
    set rest
    return key
  | _ =>
    let word := (← get).takeWhile isBareChar
    if word.isEmpty then throw .unexpected
    modify (List.drop word.length)
    return String.ofList word

/-- Reads the other parts of a dotted key, after the part `first`. Gives all parts but the last one,
and the last one. -/
def keyFrom : Nat → List String → String → Read (List String × String)
  | 0, path, last => return (path, last)
  | fuel + 1, path, last => do
    blanks
    if ← accept '.' then
      blanks
      keyFrom fuel (path ++ [last]) (← simpleKey)
    else return (path, last)

/-- Reads a key, which may be dotted, with the blanks around it. -/
def key : Read (List String × String) := do
  blanks
  let first ← simpleKey
  let (path, last) ← keyFrom (← get).length [] first
  if maxDepth ≤ path.length then throw .tooDeep
  return (path, last)

/-! ## Values -/

/-- Reads the items of an array, up to its closing bracket. -/
def items (value : Read Value) : Nat → Read (List Value)
  | 0 => throw .unexpected
  | fuel + 1 => do
    spacing (← get).length
    if ← accept ']' then return []
    let item ← value
    spacing (← get).length
    if ← accept ',' then return item :: (← items value fuel)
    else
      expect ']'
      return [item]

/-- Reads a key and its value, and adds them to a table. -/
def entry (value : Read Value) (t : Table) : Read Table := do
  let (path, last) ← key
  expect '='
  blanks
  let v ← value
  t.add path last v

/-- Reads the entries of an inline table, up to its closing bracket. There is none after the last
comma. -/
def entries (value : Read Value) : Nat → Table → Read Table
  | 0, _ => throw .unexpected
  | fuel + 1, t => do
    let t ← entry value t
    blanks
    if ← accept ',' then entries value fuel t
    else
      expect '}'
      return t

/-- Takes a word. -/
def word (w : String) (v : Value) : Read Value := do
  let cs ← get
  if cs.take w.length == w.toList then
    set (cs.drop w.length)
    return v
  else throw .unexpected

/-- Reads what a reader of characters reads. -/
def scanned {α : Type} (read : List Char → Scanned α) (make : α → Value) : Read Value := do
  let (a, rest) ← read (← get)
  set rest
  return make a

/-- Reads a value. Those inside of it are read by `inner`, if there may be any. -/
def valueWith (inner : Option (Read Value)) : Read Value := do
  match ← peek, inner with
  | some '"', _ => scanned (string false) .text
  | some '\'', _ => scanned (string true) .text
  | some 't', _ => word "true" (.bool true)
  | some 'f', _ => word "false" (.bool false)
  | some '[', some inner =>
    modify List.tail
    .array <$> items inner ((← get).length + 1)
  | some '{', some inner =>
    modify List.tail
    blanks
    if ← accept '}' then return .table .inlined []
    else Table.toValue <$> entries inner ((← get).length + 1) { origin := .inlined }
  | some '[', none | some '{', none => throw .tooDeep
  | _, _ => scanned number id

/-- Reads a value with at most `depth` arrays and inline tables inside one another. -/
def value : Nat → Read Value
  | 0 => valueWith none
  | depth + 1 => valueWith (some (value depth))

end Read

/-! ## Documents -/

/-- How much of a document has been read. -/
structure Document where
  /-- The root. -/
  root : Table := { origin := .header }
  /-- The path of the table to which keys belong. -/
  path : List String := []
deriving Repr

namespace Document

open Read

/-- Reads a header, after its first bracket. -/
def header (d : Document) : Read Document := do
  let isArray ← accept '['
  let (path, last) ← key
  expect ']'
  if isArray then expect ']'
  lineEnd
  let root ← if isArray then d.root.appendTable path last else d.root.openTable path last
  return { root, path := path ++ [last] }

/-- Reads a key and its value, and adds them to the table to which keys belong. -/
def pair (d : Document) : Read Document := do
  let (path, last) ← key
  expect '='
  blanks
  let v ← value maxDepth
  lineEnd
  let root ← d.root.update false (Table.add path last v) d.path
  return { d with root }

/-- Reads lines to the end of the text. -/
def lines : Nat → Document → Read Document
  | 0, d => return d
  | fuel + 1, d => do
    blanks
    match ← peek with
    | none => return d
    | some '[' =>
      modify List.tail
      lines fuel (← d.header)
    | some c =>
      if c == '#' || c == '\n' || c == '\r' then
        lineEnd
        lines fuel d
      else lines fuel (← d.pair)

end Document

/-- The root of the document that a text holds. A byte order mark may stand before it. -/
def parse (text : String) : Except Problem Table := do
  let cs := text.toList
  let cs := if cs.head?.any (·.toNat == 0xFEFF) then cs.tail else cs
  let (d, _) ← (Document.lines (cs.length + 1) {}).run cs
  return d.root

end PatchBay.Toml
