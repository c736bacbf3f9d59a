import StressBatch.Text.Utf8

/-!
# Hexadecimal text

Two lower-case digits per byte.
-/

namespace StressBatch.Text.Hex

/-- The digit of a value below sixteen. -/
def digit (n : Nat) : Char :=
  if n < 10 then Char.ofNat (48 + n) else Char.ofNat (87 + n)

/-- The value of a hexadecimal digit of either case. -/
def digit? (c : Char) : Option Nat :=
  let n := c.toNat
  if 48 ≤ n ∧ n ≤ 57 then some (n - 48)
  else if 97 ≤ n ∧ n ≤ 102 then some (n - 87)
  else if 65 ≤ n ∧ n ≤ 70 then some (n - 55)
  else none

/-- The two digits of a byte. -/
def ofByte (b : UInt8) : List Char :=
  [digit (b.toNat / 16), digit (b.toNat % 16)]

/-- The digits of a byte sequence. -/
def encode (bs : Bytes) : String :=
  String.ofList (bs.flatMap ofByte)

/-- The bytes written by pairs of digits. -/
def decodeChars? : List Char → Option Bytes
  | [] => some []
  | [_] => none
  | h :: l :: cs =>
    match digit? h, digit? l with
    | some x, some y => (decodeChars? cs).map (UInt8.ofNat (x * 16 + y) :: ·)
    | _, _ => none

/-- The bytes written by a text of digit pairs. -/
def decode? (s : String) : Option Bytes :=
  decodeChars? s.toList

end StressBatch.Text.Hex
