import PatchBay.Yaml.Problem

/-!
# A place in a YAML text

A cursor stands between two characters and knows its line and column, by which YAML judges
indentation. The gap between two words consists of blanks and line breaks; where words are joined
over a gap with line breaks, the first break becomes a space and further ones are kept.
-/

namespace PatchBay.Yaml

/-! ## Characters -/

/-- A space or a tab. -/
def isBlank (c : Char) : Bool := c == ' ' || c == '\t'

/-- A character that ends a line. -/
def isBreak (c : Char) : Bool :=
  c == '\n' || c == '\r' || c.toNat == 0x85 || c.toNat == 0x2028 || c.toNat == 0x2029

/-- A blank or a line break. -/
def isSpacing (c : Char) : Bool := isBlank c || isBreak c

/-- A character that a name may hold. -/
def isWord (c : Char) : Bool := c.isAlphanum || c == '_' || c == '-'

/-- Whether a word ends here: before spacing or the end of the text. -/
def endsWord : List Char → Bool
  | [] => true
  | c :: _ => isSpacing c

/-- Whether a character may stand in a text at all. -/
def isAllowed (c : Char) : Bool :=
  let n := c.toNat
  c == '\t' || c == '\n' || c == '\r' || (0x20 ≤ n && n ≤ 0x7E) || n == 0x85
    || (0xA0 ≤ n && n ≤ 0xD7FF) || (0xE000 ≤ n && n ≤ 0xFFFD) || 0x10000 ≤ n

/-- The text of a line break: the separators of lines and paragraphs stay as they are, all others
become a line feed. -/
def breakText (c : Char) : Char :=
  if c.toNat == 0x2028 || c.toNat == 0x2029 then c else '\n'

/-! ## Cursors -/

/-- A place in a text. -/
structure Cursor where
  /-- What comes after it. -/
  rest : List Char
  /-- The number of bytes before it, in UTF-8. -/
  index : Nat := 0
  /-- The number of lines before its own. -/
  line : Nat := 0
  /-- The number of characters before it on its line. -/
  column : Nat := 0
deriving Repr, DecidableEq

namespace Cursor

/-- The next character. -/
def next? (c : Cursor) : Option Char := c.rest.head?

/-- The character after the next. -/
def second? (c : Cursor) : Option Char := c.rest.tail.head?

/-- Whether the next character is this one. -/
def sees (c : Cursor) (x : Char) : Bool := c.next? == some x

/-- The number of bytes of some characters, in UTF-8. -/
def bytes (cs : List Char) : Nat := cs.foldl (fun n c => n + c.utf8Size) 0

/-- The place `n` characters on, on the same line. -/
def skip (c : Cursor) (n : Nat) : Cursor :=
  { c with
    rest := c.rest.drop n, index := c.index + bytes (c.rest.take n), column := c.column + n }

/-- The place after all next characters of a kind, none of which ends the line. -/
def skipWhile (c : Cursor) (p : Char → Bool) : Cursor := c.skip (c.rest.takeWhile p).length

/-- The place after a line break, if one is next. A carriage return and a line feed are one. -/
def skipBreak (c : Cursor) : Cursor :=
  match c.rest with
  | '\r' :: '\n' :: rest => { rest, index := c.index + 2, line := c.line + 1 }
  | x :: rest =>
    if isBreak x then { rest, index := c.index + x.utf8Size, line := c.line + 1 } else c
  | [] => c

/-- The place after a comment, if one is next. -/
def skipComment (c : Cursor) : Cursor :=
  if c.sees '#' then c.skipWhile (!isBreak ·) else c

/-- Whether a marker of three such characters stands here, alone at the start of a line. -/
def seesMarker (c : Cursor) (x : Char) : Bool :=
  c.column == 0 && c.rest.take 3 == [x, x, x] && endsWord (c.rest.drop 3)

/-- Whether a document starts or ends here. -/
def seesBoundary (c : Cursor) : Bool := c.seesMarker '-' || c.seesMarker '.'

end Cursor

/-! ## Gaps -/

/-- The spacing between two words. -/
structure Gap where
  /-- The blanks before the first line break. -/
  blanks : List Char := []
  /-- The line breaks. -/
  breaks : List Char := []
  /-- The least column at which a tab indents a line. -/
  tabColumn : Option Nat := none
  /-- The place after the spacing. -/
  after : Cursor
deriving Repr

namespace Gap

/-- Adds a blank to a gap. -/
def addBlank (g : Gap) (x : Char) : Gap :=
  if g.breaks.isEmpty then { g with blanks := g.blanks ++ [x], after := g.after.skip 1 }
  else
    { g with
      tabColumn := if x == '\t' then some (min g.after.column (g.tabColumn.getD g.after.column))
        else g.tabColumn
      after := g.after.skip 1 }

/-- Adds a line break to a gap. -/
def addBreak (g : Gap) (x : Char) : Gap :=
  { g with breaks := g.breaks ++ [breakText x], after := g.after.skipBreak }

/-- The gap of some characters, after the gap `g`. -/
def extend (g : Gap) : List Char → Gap
  | [] => g
  | '\r' :: '\n' :: rest => (g.addBreak '\n').extend rest
  | x :: rest =>
    if isBlank x then (g.addBlank x).extend rest
    else if isBreak x then (g.addBreak x).extend rest
    else g

/-- The gap that is next. -/
def next (c : Cursor) : Gap := Gap.extend { after := c } c.rest

/-- What line breaks come to where they stand between words. -/
def fold : List Char → List Char
  | [] => []
  | '\n' :: [] => [' ']
  | '\n' :: more => more
  | breaks => breaks

/-- What stands for the gap between the words that it joins. -/
def text (g : Gap) : List Char := if g.breaks.isEmpty then g.blanks else fold g.breaks

end Gap

end PatchBay.Yaml
