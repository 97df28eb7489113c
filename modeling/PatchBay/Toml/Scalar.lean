import PatchBay.Text.Decimal
import PatchBay.Toml.Table

/-!
# Reading TOML scalars

Strings in quotes, numbers, dates and times. Each reader takes the characters to come and gives
what it read and the characters after it.
-/

namespace PatchBay.Toml

/-- What a reader gives. -/
abbrev Scanned (α : Type) := Except Problem (α × List Char)

/-! ## Characters -/

/-- A space or a tab. -/
def isBlank (c : Char) : Bool := c == ' ' || c == '\t'

/-- A character that may stand on a line: no control character except the tab. -/
def isLineChar (c : Char) : Bool :=
  c == '\t' || (0x20 ≤ c.toNat && c.toNat ≤ 0x7E) || 0x80 ≤ c.toNat

/-- A character of a key without quotes. -/
def isBareChar (c : Char) : Bool := c.isAlphanum || c == '_' || c == '-'

/-- The characters after a line break, if one is next: a line feed, or a carriage return and a line
feed. -/
def newline? : List Char → Option (List Char)
  | '\n' :: rest => some rest
  | '\r' :: '\n' :: rest => some rest
  | _ => none

/-- The characters after all blanks and line breaks that are next. -/
def dropSpacing : List Char → List Char
  | '\r' :: '\n' :: rest => dropSpacing rest
  | c :: rest => if isBlank c || c == '\n' then dropSpacing rest else c :: rest
  | [] => []

/-! ## Strings -/

/-- The character that an escape stands for, and how many characters it takes up after its
backslash. -/
def escape? : List Char → Option (Char × Nat)
  | 'b' :: _ => some ('\x08', 1)
  | 't' :: _ => some ('\t', 1)
  | 'n' :: _ => some ('\n', 1)
  | 'f' :: _ => some ('\x0c', 1)
  | 'r' :: _ => some ('\r', 1)
  | '"' :: _ => some ('"', 1)
  | '\\' :: _ => some ('\\', 1)
  | 'u' :: rest => (Radix.codePoint? 4 rest).map fun c => (c, 5)
  | 'U' :: rest => (Radix.codePoint? 8 rest).map fun c => (c, 9)
  | _ => none

/-- The characters after the line break that a backslash hides, and after all blanks and line breaks
that follow. -/
def hiddenBreak? (cs : List Char) : Option (List Char) :=
  (newline? (cs.dropWhile isBlank)).map dropSpacing

/-- Reads a string of one line after its opening quote. Between single quotes a backslash is a
character like others. -/
def lineString (single : Bool) : Nat → List Char → List Char → Scanned String
  | 0, _, _ => .error .badString
  | _, _, [] => .error .badString
  | fuel + 1, text, c :: rest =>
    if c == (if single then '\'' else '"') then .ok (String.ofList text, rest)
    else if c == '\\' && !single then
      match escape? rest with
      | some (x, n) => lineString single fuel (text ++ [x]) (rest.drop n)
      | none => .error .unknownEscape
    else if isLineChar c then lineString single fuel (text ++ [c]) rest
    else .error .badString

/-- Reads a string of several lines after its opening quotes. Up to two quotes may stand in it, also
before the three that close it. -/
def blockString (single : Bool) : Nat → List Char → List Char → Scanned String
  | 0, _, _ => .error .badString
  | _, _, [] => .error .badString
  | fuel + 1, text, c :: rest =>
    let quote := if single then '\'' else '"'
    let quotes := ((c :: rest).takeWhile (· == quote)).length
    if 3 ≤ quotes then
      let kept := min (quotes - 3) 2
      .ok (String.ofList (text ++ List.replicate kept quote), (c :: rest).drop (kept + 3))
    else if 0 < quotes then
      blockString single fuel (text ++ List.replicate quotes quote) ((c :: rest).drop quotes)
    else if c == '\\' && !single then
      match hiddenBreak? rest, escape? rest with
      | some rest, _ => blockString single fuel text rest
      | none, some (x, n) => blockString single fuel (text ++ [x]) (rest.drop n)
      | none, none => .error .unknownEscape
    else
      match newline? (c :: rest) with
      | some rest => blockString single fuel (text ++ ['\n']) rest
      | none =>
        if isLineChar c then blockString single fuel (text ++ [c]) rest else .error .badString

/-- Reads a string, from its opening quote on. A line break right after three quotes is no part of
it. -/
def string (single : Bool) (cs : List Char) : Scanned String :=
  let quote := if single then '\'' else '"'
  if (cs.takeWhile (· == quote)).length < 3 then lineString single cs.length [] (cs.drop 1)
  else
    let body := cs.drop 3
    blockString single cs.length [] ((newline? body).getD body)

/-! ## Dates and times -/

/-- Reads a number of `count` digits, from `low` to `high`. -/
def field? (count low high : Nat) (cs : List Char) : Option (Nat × List Char) := do
  let digits := cs.take count
  if !digits.all Char.isDigit || digits.length < count then none
  let n ← Radix.unsigned? 10 digits
  if low ≤ n && n ≤ high then some (n, cs.drop count) else none

/-- The characters after this one, if it is next. -/
def sign? (x : Char) : List Char → Option (List Char)
  | c :: rest => if c == x then some rest else none
  | [] => none

/-- The number of days of a month. -/
def daysOf (year month : Nat) : Nat :=
  if month == 2 then
    if year % 4 == 0 && (year % 100 != 0 || year % 400 == 0) then 29 else 28
  else if [4, 6, 9, 11].contains month then 30
  else 31

/-- The characters after a date. -/
def date? (cs : List Char) : Option (List Char) := do
  let (year, cs) ← field? 4 0 9999 cs
  let cs ← sign? '-' cs
  let (month, cs) ← field? 2 1 12 cs
  let cs ← sign? '-' cs
  let (_, cs) ← field? 2 1 (daysOf year month) cs
  pure cs

/-- The characters after a time of day. -/
def time? (cs : List Char) : Option (List Char) := do
  let (_, cs) ← field? 2 0 23 cs
  let cs ← sign? ':' cs
  let (_, cs) ← field? 2 0 59 cs
  let cs ← sign? ':' cs
  let (_, cs) ← field? 2 0 60 cs
  match cs with
  | '.' :: c :: rest => if c.isDigit then pure (rest.dropWhile Char.isDigit) else pure cs
  | _ => pure cs

/-- The characters after a distance from universal time. -/
def offset? : List Char → Option (List Char)
  | [] => none
  | c :: cs =>
    if c == 'Z' || c == 'z' then some cs
    else if c == '+' || c == '-' then do
      let (_, cs) ← field? 2 0 23 cs
      let cs ← sign? ':' cs
      let (_, cs) ← field? 2 0 59 cs
      pure cs
    else none

/-- The characters after a date, a time, or a date and a time. -/
def moment? (cs : List Char) : Option (List Char) :=
  match date? cs with
  | none => time? cs
  | some rest =>
    match rest with
    | c :: after =>
      if c == 'T' || c == 't' || c == ' ' then
        match time? after with
        | some rest => some ((offset? rest).getD rest)
        | none => some rest
      else some rest
    | [] => some rest

/-! ## Numbers -/

/-- Reads digits of a kind. There may be one underscore between two of them. -/
def digitRun? (isDigit : Char → Bool) (cs : List Char) : Option (List Char × List Char) :=
  let run := cs.takeWhile fun c => isDigit c || c == '_'
  let parts := (String.ofList run).splitOn "_"
  if parts.any (·.isEmpty) then none
  else some (run.filter isDigit, cs.drop run.length)

/-- Reads a number in another base than ten, after its letter. -/
def basedInteger (base : Nat) (cs : List Char) : Scanned Value :=
  match digitRun? (fun c => (Radix.digit? c).any (· < base)) cs with
  | some (digits, rest) =>
    match (Radix.unsigned? base digits).filter (· < Nat.pow 2 63) with
    | some n => .ok (.int n, rest)
    | none => .error .badNumber
  | none => .error .badNumber

/-- Reads what may follow the digits before the point: a fraction, an exponent, or both. Gives their
text. -/
def fraction? (cs : List Char) : Option (List Char × List Char) := do
  let (places, cs) ← match cs with
    | '.' :: rest => (digitRun? Char.isDigit rest).map fun (ds, rest) => ('.' :: ds, rest)
    | cs => some ([], cs)
  match cs with
  | c :: rest =>
    if c == 'e' || c == 'E' then
      let (sign, rest) := match rest with
        | '+' :: rest => ([], rest)
        | '-' :: rest => (['-'], rest)
        | rest => ([], rest)
      let (digits, rest) ← digitRun? Char.isDigit rest
      pure (places ++ 'e' :: sign ++ digits, rest)
    else pure (places, cs)
  | [] => pure (places, cs)

/-- Reads a number in base ten, or an infinity, or what is not a number, after its sign. Only an
infinity that is written as one may be positive. -/
def decimalNumber (negative : Bool) (cs : List Char) : Scanned Value :=
  if cs.take 3 == "inf".toList || cs.take 3 == "nan".toList then .ok (.float, cs.drop 3)
  else
    match digitRun? Char.isDigit cs with
    | none => .error .badNumber
    | some (whole, rest) =>
      if 1 < whole.length && whole.head? == some '0' then .error .badNumber
      else
        match fraction? rest with
        | none => .error .badNumber
        | some ([], rest) =>
          match Radix.unsigned? 10 whole with
          | none => .error .badNumber
          | some n =>
            if negative && n ≤ Nat.pow 2 63 then .ok (.int (-(n : Int)), rest)
            else if !negative && n < Nat.pow 2 63 then .ok (.int n, rest)
            else .error .badNumber
        | some (more, rest) =>
          match Decimal.scientific? (whole ++ more) with
          | none => .error .badNumber
          | some (m, e) =>
            if negative || Decimal.isFinite m e then .ok (.float, rest) else .error .badNumber

/-- Reads a number, a date or a time. -/
def number (cs : List Char) : Scanned Value :=
  match moment? cs with
  | some rest => .ok (.moment, rest)
  | none =>
    match cs with
    | '0' :: 'x' :: rest => basedInteger 16 rest
    | '0' :: 'o' :: rest => basedInteger 8 rest
    | '0' :: 'b' :: rest => basedInteger 2 rest
    | '-' :: rest => decimalNumber true rest
    | '+' :: rest => decimalNumber false rest
    | cs => decimalNumber false cs

end PatchBay.Toml
