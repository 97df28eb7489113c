import PatchBay.Text.Combining
import PatchBay.Text.Unassigned

/-!
# Literal forms of values

The one-line forms in which values are shown to a person: a record `Name { a: 1, b: 2 }`, a tuple
`Name(1)`, a list `[1, 2]` and a quoted text. A quoted text stands between double quotes. In it a
quote and a backslash are written with a backslash before them, the common control characters by
their letter, and every other character that has no picture of its own by its code point.
-/

namespace PatchBay.Literal

/-- A list in square brackets. -/
def list (items : List String) : String :=
  "[" ++ String.intercalate ", " items ++ "]"

/-- A name with one value in round brackets. -/
def tuple (name value : String) : String :=
  name ++ "(" ++ value ++ ")"

/-- A name with labelled fields in curly brackets. -/
def record (name : String) (fields : List String) : String :=
  name ++ " \x7b " ++ String.intercalate ", " fields ++ " \x7d"

/-- One labelled field of a record. -/
def field (label value : String) : String :=
  label ++ ": " ++ value

/-! ## Quoted text -/

/-- The code points of the characters that show nothing: controls, format characters, separators
other than the plain space, characters that are ignored where they are not supported, and those for
private use. -/
def invisible : List (Nat × Nat) :=
  [(0x00, 0x1F), (0x7F, 0xA0), (0xAD, 0xAD), (0x34F, 0x34F), (0x600, 0x605), (0x61C, 0x61C),
   (0x6DD, 0x6DD), (0x70F, 0x70F), (0x890, 0x891), (0x8E2, 0x8E2), (0x115F, 0x1160),
   (0x1680, 0x1680), (0x17B4, 0x17B5), (0x180B, 0x180F), (0x2000, 0x200F), (0x2028, 0x202F),
   (0x205F, 0x2064), (0x2066, 0x206F), (0x3000, 0x3000), (0x3164, 0x3164), (0xD800, 0xF8FF),
   (0xFE00, 0xFE0F), (0xFEFF, 0xFEFF), (0xFFA0, 0xFFA0), (0xFFF9, 0xFFFB), (0x110BD, 0x110BD),
   (0x110CD, 0x110CD), (0x13430, 0x1343F), (0x1BCA0, 0x1BCA3), (0x1D173, 0x1D17A),
   (0xE0001, 0xE0001), (0xE0020, 0xE007F), (0xE0100, 0xE01EF), (0xF0000, 0xFFFFD),
   (0x100000, 0x10FFFD)]

/-- Whether a character has a picture of its own. -/
def hasPicture (c : Char) : Bool :=
  !(Text.inRanges invisible c || Text.isCombining c || Text.isUnassigned c)

/-- A character written by its code point in hexadecimal. -/
def codePoint (c : Char) : String :=
  "\\u\x7b" ++ String.ofList (Nat.toDigits 16 c.toNat) ++ "\x7d"

/-- One character as it stands between double quotes. -/
def quotedChar (c : Char) : String :=
  match c with
  | '\x00' => "\\0"
  | '\t' => "\\t"
  | '\n' => "\\n"
  | '\r' => "\\r"
  | '\\' => "\\\\"
  | '"' => "\\\""
  | c => if hasPicture c then c.toString else codePoint c

/-- A text between double quotes. -/
def quoted (s : String) : String :=
  "\"" ++ String.join (s.toList.map quotedChar) ++ "\""

end PatchBay.Literal
