import PatchBay.Text.Radix

/-!
# Bytes in hexadecimal

A byte is written with two digits, high half first. Reading accepts more: one optional sign `+`,
any number of leading zeros and both cases of digits, as long as the value fits into a byte.
-/

namespace PatchBay.Hex

/-- The digit, in upper case, of a value below sixteen. -/
def digit (n : Nat) : Char :=
  if n < 10 then Char.ofNat ('0'.toNat + n) else Char.ofNat ('A'.toNat + (n - 10))

/-- A byte as two upper-case digits. -/
def byte (b : UInt8) : String :=
  String.ofList [digit (b.toNat / 16), digit (b.toNat % 16)]

/-- Bytes as pairs of upper-case digits with a space between them. -/
def spaced (bytes : List UInt8) : String :=
  String.intercalate " " (bytes.map byte)

/-- The byte that a text stands for. -/
def byte? (text : List Char) : Option UInt8 :=
  (Radix.number? 16 text).bind fun n => if n < 256 then some (UInt8.ofNat n) else none

/-- The bytes that pairs of digits stand for. -/
def pairs? : List Char → Option (List UInt8)
  | [] => some []
  | [_] => none
  | h :: l :: rest => do
    let high ← Radix.digit? h
    let low ← Radix.digit? l
    let bytes ← pairs? rest
    pure (UInt8.ofNat (16 * high + low) :: bytes)

end PatchBay.Hex
