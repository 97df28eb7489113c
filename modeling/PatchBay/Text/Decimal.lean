import PatchBay.Text.Radix

/-!
# Decimal numbers

Natural numbers as program arguments and documents write them, numbers with a fraction and an
exponent, and the exact value of a double in fixed-point notation. A double is `m * 2 ^ q` for
integers `m` and `q`, so its decimal expansion is finite; it is cut after a fixed number of places
by rounding the exact value, a tie going to the even digit.
-/

namespace PatchBay.Decimal

/-- The largest number that a 64-bit word holds. -/
def maxWord : Nat := Nat.pow 2 64 - 1

/-- The number that a text stands for, if it is at most `limit`. -/
def atMost? (limit : Nat) (text : String) : Option Nat :=
  (Radix.number? 10 text.toList).filter (· ≤ limit)

/-! ## Scientific notation -/

/-- The number `mantissa * 10 ^ exponent` that a text without a sign stands for. -/
def scientific? (cs : List Char) : Option (Nat × Int) := do
  let whole := cs.takeWhile Char.isDigit
  let rest := cs.dropWhile Char.isDigit
  let (places, rest) := match rest with
    | '.' :: rest => (rest.takeWhile Char.isDigit, rest.dropWhile Char.isDigit)
    | rest => ([], rest)
  let mantissa ← Radix.unsigned? 10 (whole ++ places)
  let exponent : Int ← match rest with
    | [] => some 0
    | c :: rest =>
      if c == 'e' || c == 'E' then
        match rest with
        | '-' :: rest => (Radix.unsigned? 10 rest).map fun n => -(n : Int)
        | rest => (Radix.number? 10 rest).map Int.ofNat
      else none
  pure (mantissa, exponent - places.length)

/-- The least number that a double rounds to infinity. -/
def overflow : Nat := Nat.pow 2 1024 - Nat.pow 2 970

/-- Whether a double can hold `mantissa * 10 ^ exponent`, rounded. -/
def isFinite (mantissa : Nat) (exponent : Int) : Bool :=
  let size := (Nat.toDigits 10 mantissa).length + exponent
  if mantissa = 0 || size < 300 then true
  else if 320 < size then false
  else if 0 ≤ exponent then mantissa * Nat.pow 10 exponent.toNat < overflow
  else mantissa < overflow * Nat.pow 10 (-exponent).toNat

/-! ## Fixed-point notation -/

/-- The quotient rounded to the nearest integer, a tie going to the even one. -/
def roundHalfEven (num den : Nat) : Nat :=
  let q := num / den
  let r := num % den
  if 2 * r < den then q
  else if den < 2 * r then q + 1
  else q + q % 2

/-- What the bits of a double stand for. -/
inductive Value where
  /-- Not a number. -/
  | nan
  /-- An infinity, with its sign. -/
  | infinite (negative : Bool)
  /-- The number `mantissa * 2 ^ exponent`, with its sign. -/
  | finite (negative : Bool) (mantissa : Nat) (exponent : Int)
deriving Repr, DecidableEq

/-- Decodes the bits of a double. -/
def Value.ofBits (bits : UInt64) : Value :=
  let n := bits.toNat
  let negative := decide (Nat.pow 2 63 ≤ n)
  let exponent : Nat := n / Nat.pow 2 52 % Nat.pow 2 11
  let fraction := n % Nat.pow 2 52
  if exponent = 2047 then if fraction = 0 then .infinite negative else .nan
  else if exponent = 0 then .finite negative fraction (-1074)
  else .finite negative (Nat.pow 2 52 + fraction) (Int.ofNat exponent - 1075)

/-- The number of `10 ^ -places` in `mantissa * 2 ^ exponent`, rounded. -/
def scaled (places mantissa : Nat) (exponent : Int) : Nat :=
  if 0 ≤ exponent then mantissa * Nat.pow 2 exponent.toNat * Nat.pow 10 places
  else roundHalfEven (mantissa * Nat.pow 10 places) (Nat.pow 2 (-exponent).toNat)

/-- A text with blanks before it, to be at least `width` characters wide. -/
def padLeft (width : Nat) (s : String) : String :=
  String.ofList (List.replicate (width - s.length) ' ') ++ s

/-- A number with zeros before it, to be at least `width` digits wide. -/
def zeroPadded (width n : Nat) : String :=
  let digits := Nat.toDigits 10 n
  String.ofList (List.replicate (width - digits.length) '0' ++ digits)

/-- The sign that is written before a number. -/
def sign (negative : Bool) : String :=
  if negative then "-" else ""

/-- A value with `places` digits after the point. A negative number keeps its sign also where all
its digits are rounded away. -/
def fixed (places : Nat) : Value → String
  | .nan => "NaN"
  | .infinite negative => sign negative ++ "inf"
  | .finite negative mantissa exponent =>
    let n := scaled places mantissa exponent
    let unit := Nat.pow 10 places
    sign negative ++ toString (n / unit) ++ "." ++ zeroPadded places (n % unit)

end PatchBay.Decimal
