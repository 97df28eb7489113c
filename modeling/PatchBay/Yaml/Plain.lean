import PatchBay.Text.Decimal

/-!
# What plain scalars mean

A scalar without quotes is null, a truth value, a number or a text. Whole numbers are written in
base ten, or after `0x`, `0o` or `0b` in another base; one that starts with a needless zero is a
text. Numbers with a fraction or an exponent count as such as long as a double can hold them.
-/

namespace PatchBay.Yaml

/-- What a plain scalar means. -/
inductive Meaning where
  /-- Nothing. -/
  | null
  /-- A truth value. -/
  | bool (value : Bool)
  /-- A whole number. -/
  | int (value : Int)
  /-- Another number, an infinity, or what is not a number. -/
  | float
  /-- The text itself. -/
  | text
deriving Repr, DecidableEq

/-- Whether a word stands for null. -/
def isNullWord (s : String) : Bool := ["null", "Null", "NULL", "~"].contains s

/-- The truth value that a word stands for. -/
def bool? (s : String) : Option Bool :=
  if ["true", "True", "TRUE"].contains s then some true
  else if ["false", "False", "FALSE"].contains s then some false
  else none

/-! ## Whole numbers -/

/-- Removes one sign from the start of a text. -/
def dropSign : List Char → List Char
  | '+' :: rest => rest
  | '-' :: rest => rest
  | cs => cs

/-- Whether a text consists of digits, but starts with a needless zero. -/
def isZeroLed (cs : List Char) : Bool :=
  match dropSign cs with
  | '0' :: c :: rest => (c :: rest).all Char.isDigit
  | _ => false

/-- The value of a number without its sign. -/
def magnitude? : List Char → Option Nat
  | '0' :: 'x' :: rest => Radix.unsigned? 16 rest
  | '0' :: 'o' :: rest => Radix.unsigned? 8 rest
  | '0' :: 'b' :: rest => Radix.unsigned? 2 rest
  | cs => if isZeroLed cs then none else Radix.unsigned? 10 cs

/-- The value of a number that is not negative. -/
def natural? : List Char → Option Nat
  | '+' :: rest => magnitude? rest
  | cs => magnitude? cs

/-- The value of a whole number, if it fits into 128 bits. -/
def integer? : List Char → Option Int
  | '-' :: rest => ((magnitude? rest).filter (· ≤ Nat.pow 2 127)).map fun n => -(n : Int)
  | cs => ((natural? cs).filter (· < Nat.pow 2 128)).map Int.ofNat

/-- Whether a whole number fits into 64 bits, with or without a sign. -/
def isWord64 (n : Int) : Bool :=
  -Int.ofNat (Nat.pow 2 63) ≤ n && n < Int.ofNat (Nat.pow 2 64)

/-! ## Other numbers -/

/-- Whether a text is a number, an infinity, or not a number. -/
def isFloat (s : String) : Bool :=
  [".inf", ".Inf", ".INF", "+.inf", "+.Inf", "+.INF", "-.inf", "-.Inf", "-.INF",
    ".nan", ".NaN", ".NAN"].contains s
    || (Decimal.scientific? (dropSign s.toList)).any fun d => Decimal.isFinite d.1 d.2

/-! ## Scalars -/

/-- What a plain scalar means. -/
def Meaning.ofPlain (s : String) : Meaning :=
  if s.isEmpty || isNullWord s then .null
  else
    match bool? s, integer? s.toList with
    | some b, _ => .bool b
    | none, some n => .int n
    | none, none => if !isZeroLed s.toList && isFloat s then .float else .text

end PatchBay.Yaml
