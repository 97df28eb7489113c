import PatchBay.Byte
import PatchBay.Yaml.Scalar

/-!
# Tokens of a YAML text

A text is cut into tokens: signs, scalars, and tokens that make the layout of the text visible. A
block collection is indented; its extent is marked by a token where it starts and one where a line
is indented less. A key without the sign `?` is only known for a key when its colon is found, on the
same line and not far behind it. So the place where such a key may have begun is remembered, and the
tokens that belong before it are put in afterwards.
-/

namespace PatchBay.Yaml

/-- A token. -/
inductive Token where
  /-- `%YAML`, with its version. -/
  | version (major minor : Nat)
  /-- `%TAG`, with a handle and what it stands for. -/
  | tagHandle (handle : String) (meaning : Bytes)
  /-- `---`. -/
  | documentStart
  /-- `...`. -/
  | documentEnd
  /-- A block sequence starts. -/
  | blockSequenceStart
  /-- A block mapping starts. -/
  | blockMappingStart
  /-- A block collection ends. -/
  | blockEnd
  /-- `[`. -/
  | flowSequenceStart
  /-- `]`. -/
  | flowSequenceEnd
  /-- An opening curly bracket. -/
  | flowMappingStart
  /-- A closing curly bracket. -/
  | flowMappingEnd
  /-- `-`. -/
  | blockEntry
  /-- `,`. -/
  | flowEntry
  /-- A key follows. -/
  | key
  /-- A value follows. -/
  | value
  /-- `*`, with a name. -/
  | alias (name : String)
  /-- `&`, with a name. -/
  | anchor (name : String)
  /-- `!`, with the handle and the rest of a tag. -/
  | tag (handle : String) (rest : Bytes)
  /-- A scalar. -/
  | scalar (text : String) (style : Style)
deriving Repr, DecidableEq

/-- A place where a key may have begun. -/
structure KeySpot where
  /-- Whether there has to be a key. -/
  required : Bool
  /-- The number of tokens before it. -/
  tokenCount : Nat
  /-- The cursor's index there. -/
  index : Nat
  /-- The cursor's line there. -/
  line : Nat
  /-- The cursor's column there. -/
  column : Nat
deriving Repr, DecidableEq

/-- How far a text is cut into tokens. -/
structure Layout where
  /-- The place. -/
  cursor : Cursor
  /-- The column of the innermost block collection, -1 where there is none. -/
  indent : Int := -1
  /-- The columns of the block collections around it, the innermost first. -/
  outer : List Int := []
  /-- Whether a key may begin at the next token. -/
  keyAllowed : Bool := true
  /-- Where a key may have begun in the innermost flow collection, or outside of all. -/
  key : Option KeySpot := none
  /-- Where one may have begun around each flow collection, the innermost first. -/
  outerKeys : List (Option KeySpot) := []
  /-- The tokens so far. -/
  tokens : List Token := []
deriving Repr

namespace Layout

/-- Whether the place is inside a flow collection. -/
def inFlow (s : Layout) : Bool := !s.outerKeys.isEmpty

/-- Adds a token. -/
def emit (s : Layout) (t : Token) : Layout := { s with tokens := s.tokens ++ [t] }

/-- Adds a token that takes up `n` characters. -/
def emitSign (s : Layout) (t : Token) (n : Nat) : Layout :=
  { s.emit t with cursor := s.cursor.skip n }

/-- Puts a token in after the first `n`. -/
def insert (s : Layout) (n : Nat) (t : Token) : Layout :=
  { s with tokens := s.tokens.take n ++ t :: s.tokens.drop n }

/-- Allows or forbids a key at the next token. -/
def allowKey (s : Layout) (allowed : Bool) : Layout := { s with keyAllowed := allowed }

/-! ## Keys -/

/-- Gives up a place where a key may have begun. -/
def dropKey (s : Layout) : Except Problem Layout :=
  if s.key.any (·.required) then .error .missingColon else .ok { s with key := none }

/-- Remembers that a key may begin here. Outside of flow collections there has to be one where the
column is that of the block collection. -/
def saveKey (s : Layout) : Except Problem Layout :=
  if s.keyAllowed then
    s.dropKey.map fun s =>
      let c := s.cursor
      let required := !s.inFlow && s.indent == (c.column : Int)
      { s with key := some ⟨required, s.tokens.length, c.index, c.line, c.column⟩ }
  else .ok s

/-- Gives up a place that lies on another line or too far behind. -/
def expire (c : Cursor) : Option KeySpot → Except Problem (Option KeySpot)
  | none => .ok none
  | some k =>
    if k.line < c.line || k.index + 1024 < c.index then
      if k.required then .error .missingColon else .ok none
    else .ok (some k)

/-- Gives up all places that lie on another line or too far behind. -/
def expireKeys (s : Layout) : Except Problem Layout := do
  let key ← expire s.cursor s.key
  let outerKeys ← s.outerKeys.mapM (expire s.cursor)
  return { s with key, outerKeys }

/-! ## Indentation -/

/-- Starts a block collection at a column, unless there is one: its token goes after the first
`place` tokens. -/
def indentTo (s : Layout) (column place : Nat) (t : Token) : Layout :=
  if !s.inFlow && s.indent < column then
    { s.insert place t with indent := column, outer := s.indent :: s.outer }
  else s

/-- Closes block collections from the innermost on, as long as they are indented by more than
`column`. Gives how many, and what is left. -/
def unwind (column : Int) : Int → List Int → Nat × Int × List Int
  | indent, [] => (0, indent, [])
  | indent, o :: outer =>
    if column < indent then
      let (n, rest) := unwind column o outer
      (n + 1, rest)
    else (0, indent, o :: outer)

/-- Ends the block collections that are indented by more than `column`. -/
def unindent (s : Layout) (column : Int) : Layout :=
  if s.inFlow then s
  else
    let (n, indent, outer) := unwind column s.indent s.outer
    { s with indent, outer, tokens := s.tokens ++ List.replicate n .blockEnd }

/-! ## Signs -/

/-- Skips spacing and comments up to the next token. A tab may not indent a line, and outside of
flow collections a key may begin on a fresh line. A line may start with a byte order mark. -/
def skipSpacing : Nat → Layout → Layout
  | 0, s => s
  | fuel + 1, s =>
    let c := s.cursor
    let c := if c.column == 0 && c.next?.any (·.toNat == 0xFEFF) then c.skip 1 else c
    let c := c.skipWhile fun x => x == ' ' || (x == '\t' && (s.inFlow || !s.keyAllowed))
    let c := c.skipComment
    if c.next?.any isBreak then
      skipSpacing fuel { s with cursor := c.skipBreak, keyAllowed := s.keyAllowed || !s.inFlow }
    else { s with cursor := c }

/-- A marker between documents. -/
def marker (s : Layout) (t : Token) : Except Problem Layout :=
  (s.unindent (-1)).dropKey.map fun s => (s.allowKey false).emitSign t 3

/-- A flow collection starts. -/
def openFlow (s : Layout) (t : Token) : Except Problem Layout :=
  s.saveKey.map fun s =>
    { (s.emitSign t 1).allowKey true with key := none, outerKeys := s.key :: s.outerKeys }

/-- A flow collection ends. -/
def closeFlow (s : Layout) (t : Token) : Except Problem Layout :=
  s.dropKey.map fun s =>
    let s := (s.emitSign t 1).allowKey false
    match s.outerKeys with
    | [] => s
    | k :: outerKeys => { s with key := k, outerKeys }

/-- A comma in a flow collection. -/
def flowEntry (s : Layout) : Except Problem Layout :=
  s.dropKey.map fun s => (s.allowKey true).emitSign .flowEntry 1

/-- The dash of a block sequence. -/
def blockEntry (s : Layout) : Except Problem Layout :=
  if !s.inFlow && !s.keyAllowed then .error .misplaced
  else
    (s.indentTo s.cursor.column s.tokens.length .blockSequenceStart).dropKey.map fun s =>
      (s.allowKey true).emitSign .blockEntry 1

/-- The sign of a key. -/
def explicitKey (s : Layout) : Except Problem Layout :=
  if !s.inFlow && !s.keyAllowed then .error .misplaced
  else
    (s.indentTo s.cursor.column s.tokens.length .blockMappingStart).dropKey.map fun s =>
      (s.allowKey !s.inFlow).emitSign .key 1

/-- A colon. What stands at the place where a key may have begun turns out to be the key. -/
def colon (s : Layout) : Except Problem Layout :=
  match s.key with
  | some k =>
    let s := (s.insert k.tokenCount .key).indentTo k.column k.tokenCount .blockMappingStart
    .ok (({ s with key := none }.allowKey false).emitSign .value 1)
  | none =>
    if !s.inFlow && !s.keyAllowed then .error .misplaced
    else
      let s := s.indentTo s.cursor.column s.tokens.length .blockMappingStart
      .ok ((s.allowKey !s.inFlow).emitSign .value 1)

/-! ## Names and tags -/

/-- An anchor or alias. -/
def name (s : Layout) (make : String → Token) : Except Problem Layout :=
  s.saveKey.bind fun s =>
    let name := (s.cursor.skip 1).rest.takeWhile isWord
    let c := s.cursor.skip (1 + name.length)
    let ends := c.next?.all fun x =>
      isSpacing x || ['?', ':', ',', ']', '}', '%', '@', Char.ofNat 0x60].contains x
    if name.isEmpty || !ends then .error .anchorName
    else .ok { (s.allowKey false).emit (make (String.ofList name)) with cursor := c }

/-- The signs that the rest of a tag may hold. -/
def tagSigns : List Char :=
  [';', '/', '?', ':', '@', '&', '=', '+', '$', '.', '!', '~', '*', '\'', '(', ')', '%']

/-- A character that the rest of a tag may hold; `verbatim` ones stand in angle brackets. -/
def isTagChar (verbatim : Bool) (c : Char) : Bool :=
  isWord c || tagSigns.contains c || (verbatim && [',', '[', ']'].contains c)

/-- The number of bytes after the first one of a character, which tells it; none if the byte is not
the first of any. -/
def laterBytes? (first : Nat) : Option Nat :=
  if first < 0x80 then some 0
  else if first < 0xC0 then none
  else if first < 0xE0 then some 1
  else if first < 0xF0 then some 2
  else if first < 0xF8 then some 3
  else none

/-- The bytes that a tag is made of. Each `%` and two digits are a byte; `pending` later bytes of
the same character have to follow in that way. -/
def tagBytes (pending : Nat) : List Char → Option Bytes
  | [] => if pending == 0 then some [] else none
  | '%' :: h :: l :: rest => do
    let byte := 16 * (← Radix.digit? h) + (← Radix.digit? l)
    let pending ←
      match pending with
      | 0 => laterBytes? byte
      | n + 1 => if 0x80 ≤ byte && byte < 0xC0 then some n else none
    return UInt8.ofNat byte :: (← tagBytes pending rest)
  | '%' :: _ => none
  | c :: rest =>
    if pending == 0 then (tagBytes 0 rest).map (UInt8.ofNat c.toNat :: ·) else none

/-- A tag: in angle brackets, with a handle between two exclamation marks, or with the handle of
one. -/
def tag (s : Layout) : Except Problem Layout :=
  s.saveKey.bind fun s =>
    let c := s.cursor.skip 1
    let found : Option (List Char × List Char × Cursor) :=
      if c.sees '<' then
        let uri := (c.skip 1).rest.takeWhile (isTagChar true)
        let c := c.skip (1 + uri.length)
        if c.sees '>' && !uri.isEmpty then some ([], uri, c.skip 1) else none
      else
        let word := c.rest.takeWhile isWord
        if (c.skip word.length).sees '!' then
          let c := c.skip (word.length + 1)
          let rest := c.rest.takeWhile (isTagChar false)
          if rest.isEmpty then none
          else some ('!' :: word ++ ['!'], rest, c.skip rest.length)
        else
          let rest := c.rest.takeWhile (isTagChar false)
          if rest.isEmpty then some ([], ['!'], c)
          else some (['!'], rest, c.skip rest.length)
    match found with
    | none => .error .tagForm
    | some (handle, rest, c) =>
      let ends := endsWord c.rest || (s.inFlow && c.sees ',')
      match tagBytes 0 rest with
      | some rest =>
        if ends then
          .ok { (s.allowKey false).emit (.tag (String.ofList handle) rest) with cursor := c }
        else .error .tagForm
      | none => .error .tagForm

/-- The digits of a number, and the place after them. -/
def number? (c : Cursor) : Option (Nat × Cursor) :=
  let digits := c.rest.takeWhile Char.isDigit
  if digits.isEmpty || 9 < digits.length then none
  else some ((digits.foldl (fun n d => 10 * n + (d.toNat - '0'.toNat)) 0), c.skip digits.length)

/-- What a directive says, and the place after it. -/
def directive? (c : Cursor) : Option (Token × Cursor) :=
  let name := (c.skip 1).rest.takeWhile isWord
  let c := c.skip (1 + name.length)
  if !endsWord c.rest then none
  else
    let c := c.skipWhile isBlank
    if name == "YAML".toList then do
      let (major, c) ← number? c
      if !c.sees '.' then none
      else
        let (minor, c) ← number? (c.skip 1)
        pure (.version major minor, c)
    else if name == "TAG".toList then
      let word := (c.skip 1).rest.takeWhile isWord
      let marked := (c.skip (1 + word.length)).sees '!'
      let handle := if marked then '!' :: word ++ ['!'] else '!' :: word
      if !c.sees '!' || (!marked && !word.isEmpty) then none
      else
        let c := c.skip handle.length
        if !c.next?.any isBlank then none
        else
          let c := c.skipWhile isBlank
          let meaning := c.rest.takeWhile (isTagChar true)
          let c := c.skip meaning.length
          match tagBytes 0 meaning with
          | some bytes =>
            if !meaning.isEmpty && endsWord c.rest then
              some (.tagHandle (String.ofList handle) bytes, c)
            else none
          | none => none
    else none

/-- A directive, which takes up its line. -/
def directive (s : Layout) : Except Problem Layout :=
  (s.unindent (-1)).dropKey.bind fun s =>
    match directive? s.cursor with
    | none => .error .directiveForm
    | some (t, c) =>
      let c := (c.skipWhile isBlank).skipComment
      if c.rest.head?.all isBreak then
        .ok { (s.allowKey false).emit t with cursor := c.skipBreak }
      else .error .directiveForm

/-! ## Scalars -/

/-- A scalar that may turn out to be a key. -/
def scalar (s : Layout) (style : Style) (read : Cursor → Except Problem Scanned) :
    Except Problem Layout :=
  s.saveKey.bind fun s =>
    (read s.cursor).map fun scanned =>
      { (s.allowKey scanned.freshLine).emit (.scalar (String.ofList scanned.text) style) with
        cursor := scanned.after }

/-- A block scalar, which cannot be a key. -/
def block (s : Layout) (folded : Bool) : Except Problem Layout :=
  s.dropKey.bind fun s =>
    (readBlock folded s.indent (s.cursor.skip 1)).map fun scanned =>
      { (s.allowKey true).emit
          (.scalar (String.ofList scanned.text) (if folded then .folded else .literal)) with
        cursor := scanned.after }

/-- The signs that open something else than a plain scalar, besides those of flow collections; the
last one is the grave accent, which is reserved. -/
def openingSigns : List Char :=
  ['#', '&', '*', '!', '|', '>', '\'', '"', '%', '@', Char.ofNat 0x60]

/-- Whether a plain scalar may start here. -/
def startsPlain (s : Layout) : Bool :=
  match s.cursor.rest with
  | [] => false
  | x :: rest =>
    if x == '-' then !rest.head?.any isBlank
    else if x == '?' || x == ':' then !s.inFlow && !endsWord rest
    else
      !(isSpacing x || isFlowSign x
        || openingSigns.contains x)

/-- Whether a sign stands here: in a flow collection always, elsewhere before spacing. -/
def seesSign (s : Layout) (x : Char) : Bool :=
  s.cursor.sees x && (s.inFlow || endsWord s.cursor.rest.tail)

/-- Cuts off the next token, which starts here. -/
def token (s : Layout) : Except Problem Layout :=
  let c := s.cursor
  if c.column == 0 && c.sees '%' then s.directive
  else if c.seesMarker '-' then s.marker .documentStart
  else if c.seesMarker '.' then s.marker .documentEnd
  else if c.sees '[' then s.openFlow .flowSequenceStart
  else if c.sees '{' then s.openFlow .flowMappingStart
  else if c.sees ']' then s.closeFlow .flowSequenceEnd
  else if c.sees '}' then s.closeFlow .flowMappingEnd
  else if c.sees ',' then s.flowEntry
  else if c.sees '-' && endsWord c.rest.tail then s.blockEntry
  else if s.seesSign '?' then s.explicitKey
  else if s.seesSign ':' then s.colon
  else if c.sees '*' then s.name .alias
  else if c.sees '&' then s.name .anchor
  else if c.sees '!' then s.tag
  else if c.sees '|' && !s.inFlow then s.block false
  else if c.sees '>' && !s.inFlow then s.block true
  else if c.sees '\'' then s.scalar .quoted fun c => readQuoted true (c.skip 1)
  else if c.sees '"' then s.scalar .quoted fun c => readQuoted false (c.skip 1)
  else if s.startsPlain then
    s.scalar .plain (readPlain s.inFlow (s.indent + 1).toNat)
  else .error .strayCharacter

/-- The end of the text, which ends all block collections. -/
def finish (s : Layout) : Except Problem (List Token) :=
  (s.unindent (-1)).dropKey.map (·.tokens)

/-- Cuts off tokens to the end of the text. -/
def run : Nat → Layout → Except Problem (List Token)
  | 0, s => s.finish
  | fuel + 1, s => do
    let s ← (skipSpacing (s.cursor.rest.length + 1) s).expireKeys
    if s.cursor.rest.isEmpty then s.finish
    else
      let s ← (s.unindent s.cursor.column).token
      run fuel s

end Layout

/-- Cuts a text into tokens. -/
def tokens (text : String) : Except Problem (List Token) :=
  if text.toList.all isAllowed then
    Layout.run (text.toList.length + 1) { cursor := { rest := text.toList } }
  else .error .forbiddenCharacter

end PatchBay.Yaml
