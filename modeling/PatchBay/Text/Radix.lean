/-!
# Natural numbers in a base up to sixteen

Digits are `0` to `9` and the letters `a` to `f` of either case. A number has at least one digit;
leading zeros do not matter.
-/

namespace PatchBay.Radix

/-- The value of a digit of either case. -/
def digit? (c : Char) : Option Nat :=
  if '0' ≤ c ∧ c ≤ '9' then some (c.toNat - '0'.toNat)
  else if 'a' ≤ c ∧ c ≤ 'f' then some (c.toNat - 'a'.toNat + 10)
  else if 'A' ≤ c ∧ c ≤ 'F' then some (c.toNat - 'A'.toNat + 10)
  else none

/-- The value of a run of digits that follow the value `acc`. -/
def digits? (base acc : Nat) : List Char → Option Nat
  | [] => some acc
  | c :: rest =>
    ((digit? c).filter (· < base)).bind fun d => digits? base (base * acc + d) rest

/-- The value of a number without a sign. -/
def unsigned? (base : Nat) (cs : List Char) : Option Nat :=
  if cs.isEmpty then none else digits? base 0 cs

/-- The value of a number with an optional sign `+`. -/
def number? (base : Nat) : List Char → Option Nat
  | '+' :: rest => unsigned? base rest
  | cs => unsigned? base cs

/-- The character whose code point the first `count` characters of a text give in hexadecimal. -/
def codePoint? (count : Nat) (cs : List Char) : Option Char :=
  if cs.length < count then none
  else
    match digits? 16 0 (cs.take count) with
    | some n => if n.isValidChar then some (Char.ofNat n) else none
    | none => none

end PatchBay.Radix
