import PatchBay.Text.Radix
import PatchBay.Yaml.Cursor

/-!
# Reading scalars

A scalar is written plain, in single or double quotes, or as a block: literally, with its line
breaks, or folded. Each reader starts after the sign that opens the scalar and gives the text that
the scalar stands for.
-/

namespace PatchBay.Yaml

/-- How a scalar was written. -/
inductive Style where
  /-- Without quotes. -/
  | plain
  /-- In single or double quotes. -/
  | quoted
  /-- As a block that keeps its line breaks. -/
  | literal
  /-- As a block whose line breaks become spaces. -/
  | folded
deriving Repr, DecidableEq

/-- A scalar that was read. -/
structure Scanned where
  /-- The text. -/
  text : List Char
  /-- The place after it. -/
  after : Cursor
  /-- Whether it ends at a fresh line. -/
  freshLine : Bool := false

/-! ## Plain scalars -/

/-- The signs of flow collections, which end a plain scalar inside one. -/
def isFlowSign (c : Char) : Bool :=
  c == ',' || c == '[' || c == ']' || c == '{' || c == '}'

/-- The characters that a word of a plain scalar consists of. Inside a flow collection a colon may
not stand before one of its signs. -/
def plainWord (inFlow : Bool) : List Char → Except Problem (List Char)
  | [] => .ok []
  | c :: rest =>
    if isSpacing c then .ok []
    else if inFlow && c == ':' && rest.head?.any (fun d => d == '?' || isFlowSign d) then
      .error .strayColon
    else if (c == ':' && endsWord rest) || (inFlow && isFlowSign c) then .ok []
    else (plainWord inFlow rest).map (c :: ·)

/-- Goes on with a plain scalar after `text` and the gap `gap`. Outside of flow collections its
lines are indented by at least `indent`. -/
def plainFrom (inFlow : Bool) (indent : Nat) :
    Nat → List Char → Gap → Except Problem Scanned
  | 0, text, gap => .ok ⟨text, gap.after, !gap.breaks.isEmpty⟩
  | fuel + 1, text, gap =>
    let here : Scanned := ⟨text, gap.after, !gap.breaks.isEmpty⟩
    if gap.after.seesBoundary || gap.after.sees '#' then .ok here
    else
      match plainWord inFlow gap.after.rest with
      | .error e => .error e
      | .ok [] => .ok here
      | .ok word =>
        let text := text ++ gap.text ++ word
        let next := Gap.next (gap.after.skip word.length)
        if next.tabColumn.any (· < indent) then .error .tabIndentation
        else if !inFlow && next.after.column < indent then
          .ok ⟨text, next.after, !next.breaks.isEmpty⟩
        else plainFrom inFlow indent fuel text next

/-- Reads a plain scalar. -/
def readPlain (inFlow : Bool) (indent : Nat) (c : Cursor) : Except Problem Scanned :=
  plainFrom inFlow indent (c.rest.length + 1) [] { after := c }

/-! ## Quoted scalars -/

/-- The character that a letter stands for after a backslash. -/
def escape? : Char → Option Char
  | '0' => some '\x00'
  | 'a' => some '\x07'
  | 'b' => some '\x08'
  | 't' | '\t' => some '\t'
  | 'n' => some '\n'
  | 'v' => some '\x0b'
  | 'f' => some '\x0c'
  | 'r' => some '\r'
  | 'e' => some '\x1b'
  | ' ' => some ' '
  | '"' => some '"'
  | '/' => some '/'
  | '\\' => some '\\'
  | 'N' => some (Char.ofNat 0x85)
  | '_' => some (Char.ofNat 0xA0)
  | 'L' => some (Char.ofNat 0x2028)
  | 'P' => some (Char.ofNat 0x2029)
  | _ => none

/-- The number of digits after a letter that opens a code point. -/
def escapeDigits? : Char → Option Nat
  | 'x' => some 2
  | 'u' => some 4
  | 'U' => some 8
  | _ => none

/-- What a word of a quoted scalar comes to. -/
structure QuotedWord where
  /-- The text. -/
  text : List Char := []
  /-- The place after it. -/
  after : Cursor
  /-- Whether it ends with a line break that was escaped. -/
  escapedBreak : Bool := false

/-- Reads the characters of a quoted scalar up to spacing or the closing quote. -/
def quotedWord (single : Bool) : Nat → List Char → Cursor → Except Problem QuotedWord
  | 0, text, c => .ok { text, after := c }
  | fuel + 1, text, c =>
    match c.rest with
    | [] => .ok { text, after := c }
    | x :: rest =>
      if isSpacing x then .ok { text, after := c }
      else if single then
        if x == '\'' then
          if rest.head? == some '\'' then quotedWord single fuel (text ++ ['\'']) (c.skip 2)
          else .ok { text, after := c }
        else quotedWord single fuel (text ++ [x]) (c.skip 1)
      else if x == '"' then .ok { text, after := c }
      else if x == '\\' then
        match rest with
        | [] => .error .unknownEscape
        | y :: digits =>
          if isBreak y then .ok { text, after := (c.skip 1).skipBreak, escapedBreak := true }
          else
            match escape? y, escapeDigits? y with
            | some z, _ => quotedWord single fuel (text ++ [z]) (c.skip 2)
            | none, some count =>
              match Radix.codePoint? count digits with
              | some z => quotedWord single fuel (text ++ [z]) (c.skip (2 + count))
              | none => .error .unknownEscape
            | none, none => .error .unknownEscape
      else quotedWord single fuel (text ++ [x]) (c.skip 1)

/-- Goes on with a quoted scalar after `text`. An escaped line break joins without a space. -/
def quotedFrom (single : Bool) : Nat → List Char → Cursor → Except Problem Scanned
  | 0, _, _ => .error .unterminatedQuote
  | fuel + 1, text, c =>
    if c.seesBoundary then .error .markerInQuote
    else
      match quotedWord single (c.rest.length + 1) [] c with
      | .error e => .error e
      | .ok word =>
        let text := text ++ word.text
        if word.after.sees (if single then '\'' else '"') then .ok ⟨text, word.after.skip 1, false⟩
        else if word.after.rest.isEmpty then .error .unterminatedQuote
        else
          let gap := Gap.next word.after
          let joined := if word.escapedBreak then gap.breaks else gap.text
          quotedFrom single fuel (text ++ joined) gap.after

/-- Reads a quoted scalar after its opening quote. -/
def readQuoted (single : Bool) (c : Cursor) : Except Problem Scanned :=
  quotedFrom single (c.rest.length + 1) [] c

/-! ## Block scalars -/

/-- What becomes of the line breaks at the end of a block. -/
inductive Chomping where
  /-- All go. -/
  | strip
  /-- One stays. -/
  | clip
  /-- All stay. -/
  | keep
deriving Repr, DecidableEq

/-- The chomping that a sign asks for. -/
def chomping? : Char → Option Chomping
  | '+' => some .keep
  | '-' => some .strip
  | _ => none

/-- What follows the sign of a block scalar: chomping and indentation, in either order. -/
structure BlockHeader where
  /-- The chomping. -/
  chomping : Chomping := .clip
  /-- By how much more than its surroundings the block is indented, if that is told. -/
  increment : Option Nat := none
  /-- The place after it. -/
  after : Cursor

/-- The indentation that a digit tells. -/
def increment? (c : Cursor) : Except Problem (Option Nat) :=
  match c.next? with
  | some d =>
    if d == '0' then .error .blockHeader
    else if d.isDigit then .ok (some (d.toNat - '0'.toNat))
    else .ok none
  | none => .ok none

/-- Reads what follows the sign of a block scalar. -/
def readBlockHeader (c : Cursor) : Except Problem BlockHeader :=
  match c.next?.bind chomping? with
  | some chomping =>
    (increment? (c.skip 1)).map fun increment =>
      { chomping, increment, after := c.skip (if increment.isSome then 2 else 1) }
  | none =>
    match increment? c with
    | .error e => .error e
    | .ok none => .ok { after := c }
    | .ok (some n) =>
      match (c.skip 1).next?.bind chomping? with
      | some chomping => .ok { chomping, increment := some n, after := c.skip 2 }
      | none => .ok { increment := some n, after := c.skip 1 }

/-- The empty lines before a line of a block. -/
structure BlockGap where
  /-- Their line breaks. -/
  breaks : List Char := []
  /-- The largest column that was reached. -/
  widest : Nat := 0
  /-- The place after them. -/
  after : Cursor

/-- Skips empty lines and the indentation of the line after them, up to column `indent` if that is
known. -/
def blockGap (indent : Option Nat) : Nat → BlockGap → Except Problem BlockGap
  | 0, g => .ok g
  | fuel + 1, g =>
    let spaces := (g.after.rest.takeWhile (· == ' ')).length
    let c := g.after.skip (match indent with
      | none => spaces
      | some n => min spaces (n - g.after.column))
    let g := { g with after := c, widest := max g.widest c.column }
    if c.sees '\t' && indent.all (c.column < ·) then .error .tabIndentation
    else
      match c.next? with
      | some x =>
        if isBreak x then
          blockGap indent fuel { g with breaks := g.breaks ++ [breakText x], after := c.skipBreak }
        else .ok g
      | none => .ok g

/-- What is known of a block while its lines are read. -/
structure BlockText where
  /-- The text so far, without the line breaks at its end. -/
  text : List Char := []
  /-- The line break after the last line. -/
  lastBreak : List Char := []
  /-- The line breaks of the empty lines after that. -/
  empties : List Char := []
  /-- Whether the last line began with a blank. -/
  wasBlank : Bool := false
  /-- The place after it. -/
  after : Cursor

/-- Adds the line that is next. In a folded block a line break between two lines that do not begin
with a blank becomes a space, or nothing where empty lines follow it. -/
def BlockText.addLine (folded : Bool) (b : BlockText) : BlockText :=
  let line := b.after.rest.takeWhile (!isBreak ·)
  let blank := line.head?.any isBlank
  let joint :=
    if folded && b.lastBreak == ['\n'] && !b.wasBlank && !blank then
      if b.empties.isEmpty then [' '] else []
    else b.lastBreak
  let after := b.after.skip line.length
  { text := b.text ++ joint ++ b.empties ++ line
    lastBreak := (after.next?.map breakText).toList
    wasBlank := blank
    after := after.skipBreak }

/-- Reads lines for as long as they are indented by `indent`. -/
def blockLines (folded : Bool) (indent : Nat) : Nat → BlockText → Except Problem BlockText
  | 0, b => .ok b
  | fuel + 1, b =>
    if b.after.column == indent && !b.after.rest.isEmpty then
      let b := b.addLine folded
      match blockGap (some indent) (b.after.rest.length + 1) { after := b.after } with
      | .error e => .error e
      | .ok gap =>
        blockLines folded indent fuel { b with empties := gap.breaks, after := gap.after }
    else .ok b

/-- Reads a block scalar after its sign, inside a collection that is indented by `outer` columns. -/
def readBlock (folded : Bool) (outer : Int) (c : Cursor) : Except Problem Scanned := do
  let header ← readBlockHeader c
  let c := (header.after.skipWhile isBlank).skipComment
  if !(c.rest.head?.all isBreak) then throw .blockHeader
  let c := c.skipBreak
  let told := header.increment.map fun n => (max outer 0).toNat + n
  let gap ← blockGap told (c.rest.length + 1) { after := c }
  let indent := told.getD (max gap.widest (max (outer + 1) 1).toNat)
  let b ← blockLines folded indent (gap.after.rest.length + 1)
    { empties := gap.breaks, after := gap.after }
  let tail := match header.chomping with
    | .strip => []
    | .clip => b.lastBreak
    | .keep => b.lastBreak ++ b.empties
  return ⟨b.text ++ tail, b.after, true⟩

end PatchBay.Yaml
