/-!
# UTF-8

Encoding of characters as bytes and the two ways back: `decode?`, which refuses a byte sequence that
is not well formed, and `decodeLossy`, which puts one replacement character for every maximal broken
part and carries on behind it. Both read the front of the sequence with `lead`.
-/

namespace StressBatch

/-- A sequence of bytes. -/
abbrev Bytes := List UInt8

namespace Text.Utf8

/-! ## Encoding -/

/-- The bytes of one character. -/
def encodeChar (c : Char) : Bytes :=
  let n := c.toNat
  if n < 0x80 then [UInt8.ofNat n]
  else if n < 0x800 then [UInt8.ofNat (0xC0 + n / 64), UInt8.ofNat (0x80 + n % 64)]
  else if n < 0x10000 then
    [UInt8.ofNat (0xE0 + n / 4096), UInt8.ofNat (0x80 + n / 64 % 64), UInt8.ofNat (0x80 + n % 64)]
  else
    [UInt8.ofNat (0xF0 + n / 262144), UInt8.ofNat (0x80 + n / 4096 % 64),
      UInt8.ofNat (0x80 + n / 64 % 64), UInt8.ofNat (0x80 + n % 64)]

/-- The bytes of a text. -/
def encode (s : String) : Bytes :=
  s.toList.flatMap encodeChar

/-! ## Decoding -/

/-- What stands at the front of a byte sequence. -/
inductive Lead where
  /-- A character that takes `tail` bytes after the first. -/
  | char (c : Char) (tail : Nat)
  /-- A maximal broken part that takes `tail` bytes after the first. -/
  | broken (tail : Nat)
  deriving DecidableEq, Repr

/-- The six payload bits of a continuation byte, if the byte lies between the given bounds. The
bounds of the byte after the first exclude overlong forms, surrogates and values that are too
large. -/
def continuation? (low high : Nat) : Bytes → Option Nat
  | [] => none
  | b :: _ => if low ≤ b.toNat ∧ b.toNat ≤ high then some (b.toNat - 0x80) else none

/-- The bounds of the second byte of a three-byte form that starts with `b`. -/
def secondOfThree (b : Nat) : Nat × Nat :=
  if b = 0xE0 then (0xA0, 0xBF) else if b = 0xED then (0x80, 0x9F) else (0x80, 0xBF)

/-- The bounds of the second byte of a four-byte form that starts with `b`. -/
def secondOfFour (b : Nat) : Nat × Nat :=
  if b = 0xF0 then (0x90, 0xBF) else if b = 0xF4 then (0x80, 0x8F) else (0x80, 0xBF)

/-- Reads the front of the sequence that starts with the byte `first` and goes on with `rest`. -/
def lead (first : UInt8) (rest : Bytes) : Lead :=
  let b := first.toNat
  if b < 0x80 then .char (Char.ofNat b) 0
  else if 0xC2 ≤ b ∧ b ≤ 0xDF then
    match continuation? 0x80 0xBF rest with
    | none => .broken 0
    | some x => .char (Char.ofNat ((b - 0xC0) * 64 + x)) 1
  else if 0xE0 ≤ b ∧ b ≤ 0xEF then
    match continuation? (secondOfThree b).1 (secondOfThree b).2 rest with
    | none => .broken 0
    | some x =>
      match continuation? 0x80 0xBF (rest.drop 1) with
      | none => .broken 1
      | some y => .char (Char.ofNat ((b - 0xE0) * 4096 + x * 64 + y)) 2
  else if 0xF0 ≤ b ∧ b ≤ 0xF4 then
    match continuation? (secondOfFour b).1 (secondOfFour b).2 rest with
    | none => .broken 0
    | some x =>
      match continuation? 0x80 0xBF (rest.drop 1) with
      | none => .broken 1
      | some y =>
        match continuation? 0x80 0xBF (rest.drop 2) with
        | none => .broken 2
        | some z => .char (Char.ofNat ((b - 0xF0) * 262144 + x * 4096 + y * 64 + z)) 3
  else .broken 0

/-- The characters of a well-formed sequence. -/
def decodeChars? : Bytes → Option (List Char)
  | [] => some []
  | b :: rest =>
    match lead b rest with
    | .broken _ => none
    | .char c tail => (decodeChars? (rest.drop tail)).map (c :: ·)
termination_by bs => bs.length
decreasing_by rw [List.length_drop, List.length_cons]; omega

/-- The characters of any sequence, with one U+FFFD for every maximal broken part. -/
def decodeLossyChars : Bytes → List Char
  | [] => []
  | b :: rest =>
    match lead b rest with
    | .broken tail => '\uFFFD' :: decodeLossyChars (rest.drop tail)
    | .char c tail => c :: decodeLossyChars (rest.drop tail)
termination_by bs => bs.length
decreasing_by all_goals (rw [List.length_drop, List.length_cons]; omega)

/-- The text of a well-formed sequence; `none` for any other. -/
def decode? (bs : Bytes) : Option String :=
  (decodeChars? bs).map String.ofList

/-- The text of any sequence, with one U+FFFD for every maximal broken part. -/
def decodeLossy (bs : Bytes) : String :=
  String.ofList (decodeLossyChars bs)

@[simp] theorem encode_empty : encode "" = [] := rfl

/-- Bytes of ASCII characters decode to those characters. -/
theorem lead_ascii {b : UInt8} (h : b.toNat < 0x80) (rest : Bytes) :
    lead b rest = .char (Char.ofNat b.toNat) 0 := by
  simp [lead, h]

end Text.Utf8

end StressBatch
