import PatchBay.Text.Hex
import PatchBay.Yaml.Cursor
import PatchBay.Yaml.Plain

/-!
# Writing scalars

A text is written without quotes where it reads back as that text. Where it would be taken for null,
a truth value or a number, or where a sign in it has a meaning of its own, it stands in single
quotes. A text of several lines is written as a literal block. What none of these can hold stands in
double quotes, with escapes.
-/

namespace PatchBay.Yaml.Printer

/-! ## What a text holds -/

/-- A character that is written as it is, in quotes or without. -/
def isPrintable (c : Char) : Bool :=
  let n := c.toNat
  n == 0x0A || (0x20 ≤ n && n ≤ 0x7E) || (0xA0 ≤ n && n ≤ 0xD7FF)
    || (0xE000 ≤ n && n ≤ 0xFFFD && n != 0xFEFF) || 0x10000 ≤ n

/-- Whether two characters stand side by side, the first of one kind and the second of another. -/
def hasPair (p q : Char → Bool) (cs : List Char) : Bool :=
  (cs.zip cs.tail).any fun x => p x.1 && q x.2

/-- The signs that no text without quotes starts with; the last one is the grave accent. -/
def signs : List Char :=
  ['#', ',', '[', ']', '{', '}', '&', '*', '!', '|', '>', '\'', '"', '%', '@', Char.ofNat 0x60]

/-- Whether a text starts with a sign. -/
def startsWithSign : List Char → Bool
  | [] => false
  | c :: rest =>
    signs.contains c || (['?', ':', '-'].contains c && endsWord rest)

/-- Whether a text starts like a marker between documents. -/
def startsWithMarker (cs : List Char) : Bool :=
  cs.take 3 == ['-', '-', '-'] || cs.take 3 == ['.', '.', '.']

/-- Whether a text holds the sign of a value or a comment. -/
def holdsSign (cs : List Char) : Bool :=
  hasPair (· == ':') isSpacing cs || cs.getLast? == some ':' || hasPair isSpacing (· == '#') cs

/-- Whether a text consists of characters that are written as they are, and no line in it ends with
a space. -/
def isRegular (cs : List Char) : Bool :=
  cs.all isPrintable && !hasPair (· == ' ') isBreak cs

/-- Whether a text may stand without quotes. -/
def allowsPlain (cs : List Char) : Bool :=
  isRegular cs && !cs.any isBreak && cs.head? != some ' ' && cs.getLast? != some ' '
    && !startsWithSign cs && !startsWithMarker cs && !holdsSign cs

/-- Whether a text may stand in single quotes. -/
def allowsQuotes (cs : List Char) : Bool := isRegular cs && !hasPair isBreak (· == ' ') cs

/-- Whether a text may stand in a literal block. -/
def allowsBlock (cs : List Char) : Bool := isRegular cs && cs.getLast? != some ' '

/-! ## Forms -/

/-- How a text is written. -/
inductive Form where
  /-- Without quotes. -/
  | plain
  /-- In single quotes. -/
  | single
  /-- In double quotes. -/
  | double
  /-- As a literal block. -/
  | literal
deriving Repr, DecidableEq

/-- Whether a text is its own meaning when it stands without quotes. -/
def meansItself (s : String) : Bool :=
  !isZeroLed s.toList && Meaning.ofPlain s == .text

/-- The form of a text. -/
def form (s : String) : Form :=
  let cs := s.toList
  if cs.contains '\n' then if allowsBlock cs then .literal else .double
  else if meansItself s && allowsPlain cs then .plain
  else if allowsQuotes cs then .single
  else .double

/-- Spaces at the start of a line. -/
def margin (indent : Nat) : List Char := List.replicate indent ' '

/-- A text on lines with a margin. A line that holds nothing has none. -/
def withMargin (indent : Nat) : Bool → List Char → List Char
  | _, [] => []
  | fresh, c :: rest =>
    if isBreak c then c :: withMargin indent true rest
    else (if fresh then margin indent else []) ++ c :: withMargin indent false rest

/-- A text in single quotes. -/
def single (indent : Nat) (cs : List Char) : List Char :=
  let body := withMargin indent false (cs.flatMap fun c => if c == '\'' then [c, c] else [c])
  '\'' :: body ++ (if cs.getLast?.any isBreak then margin indent else []) ++ ['\'']

/-- The escape of a character in double quotes, after its backslash. -/
def escape (c : Char) : List Char :=
  match c.toNat with
  | 0x00 => ['0']
  | 0x07 => ['a']
  | 0x08 => ['b']
  | 0x09 => ['t']
  | 0x0A => ['n']
  | 0x0B => ['v']
  | 0x0C => ['f']
  | 0x0D => ['r']
  | 0x1B => ['e']
  | 0x22 => ['"']
  | 0x5C => ['\\']
  | 0x85 => ['N']
  | 0xA0 => ['_']
  | 0x2028 => ['L']
  | 0x2029 => ['P']
  | n =>
    let digits (count : Nat) : List Char :=
      (List.range count).reverse.map fun k => Hex.digit (n / Nat.pow 16 k % 16)
    if n ≤ 0xFF then 'x' :: digits 2
    else if n ≤ 0xFFFF then 'u' :: digits 4
    else 'U' :: digits 8

/-- A text in double quotes. -/
def double (cs : List Char) : List Char :=
  '"' :: cs.flatMap (fun c =>
    if !isPrintable c || isBreak c || c == '"' || c == '\\' then '\\' :: escape c else [c]) ++ ['"']

/-- What tells how many of a block's last line breaks belong to its text. -/
def chomping (cs : List Char) : List Char :=
  match cs.reverse with
  | [] => ['-']
  | [c] => if isBreak c then ['+'] else ['-']
  | c :: d :: _ => if !isBreak c then ['-'] else if isBreak d then ['+'] else []

/-- A text as a literal block. Its margin is told where the text itself starts with a space or a
line break. -/
def literal (indent : Nat) (cs : List Char) : List Char :=
  let told := if cs.head?.any fun c => c == ' ' || isBreak c then ['2'] else []
  '|' :: told ++ chomping cs ++ '\n' :: withMargin indent true cs

/-- A text whose lines have the margin `indent`. -/
def text (indent : Nat) (s : String) : String :=
  String.ofList <|
    match form s with
    | .plain => s.toList
    | .single => single indent s.toList
    | .double => double s.toList
    | .literal => literal indent s.toList

/-- An entry of a block mapping, whose key has the margin `indent`. -/
def entry (indent : Nat) (key value : String) : String :=
  let line := String.ofList (margin indent) ++ key ++ ": " ++ value
  if value.toList.getLast?.any isBreak then line else line ++ "\n"

end PatchBay.Yaml.Printer
