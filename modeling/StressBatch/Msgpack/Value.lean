import StressBatch.Text.Utf8

/-!
# MessagePack values

The values of the MessagePack format. A text is kept as its bytes, because nothing stops a peer from
sending bytes that are no UTF-8 under the tag of a text. Whole numbers keep whether they were
written in a signed or an unsigned form: an index of a field or of a choice has to be unsigned.

`Value.encode` writes every value in its shortest form. `Value.Writable` says which values the
format has room for.
-/

namespace StressBatch.Msgpack

/-- A value of the format. -/
inductive Value where
  /-- The value that is none. -/
  | nil
  /-- A truth value. -/
  | bool (b : Bool)
  /-- A whole number in an unsigned form. -/
  | uint (n : Nat)
  /-- A whole number in a signed form. -/
  | sint (i : Int)
  /-- A floating-point number of the given number of bytes, by its bits. -/
  | float (width bits : Nat)
  /-- A text, by its bytes. -/
  | str (bytes : Bytes)
  /-- A byte sequence. -/
  | bin (bytes : Bytes)
  /-- An application's own type of data, by the byte of its tag and its bytes. -/
  | ext (tag : UInt8) (bytes : Bytes)
  /-- A list. -/
  | array (items : List Value)
  /-- Pairs of a key and a value. -/
  | map (entries : List (Value × Value))
  deriving Repr, Inhabited

/-! ## Numbers in bytes -/

/-- How many numbers there are of `width` bytes. -/
def wordCount (width : Nat) : Nat := Nat.pow 256 width

/-- The lowest `width` bytes of a number, most significant first. -/
def bigEndian : (width : Nat) → (n : Nat) → Bytes
  | 0, _ => []
  | width + 1, n => UInt8.ofNat (n / wordCount width) :: bigEndian width n

/-- The number whose lowest `width` bytes are those of a negative or small number. -/
def twosComplement (width : Nat) (i : Int) : Nat := (i % (wordCount width : Nat)).toNat

/-- A byte in front of a number of `width` bytes. -/
def tagged (tag : UInt8) (width n : Nat) : Bytes := tag :: bigEndian width n

/-- The shortest form of a number that is not negative. -/
def uintBytes (n : Nat) : Bytes :=
  if n < 0x80 then [UInt8.ofNat n]
  else if n < 0x100 then tagged 0xcc 1 n
  else if n < 0x10000 then tagged 0xcd 2 n
  else if n < 0x100000000 then tagged 0xce 4 n
  else tagged 0xcf 8 n

/-- The shortest signed form of a number. -/
def sintBytes (i : Int) : Bytes :=
  if -0x20 ≤ i ∧ i < 0 then [UInt8.ofNat (twosComplement 1 i)]
  else if -0x80 ≤ i ∧ i < 0x80 then tagged 0xd0 1 (twosComplement 1 i)
  else if -0x8000 ≤ i ∧ i < 0x8000 then tagged 0xd1 2 (twosComplement 2 i)
  else if -0x80000000 ≤ i ∧ i < 0x80000000 then tagged 0xd2 4 (twosComplement 4 i)
  else tagged 0xd3 8 (twosComplement 8 i)

/-! ## The bytes in front of a sequence -/

/-- What stands in front of a text of `n` bytes. -/
def strHead (n : Nat) : Bytes :=
  if n < 0x20 then [UInt8.ofNat (0xa0 + n)]
  else if n < 0x100 then tagged 0xd9 1 n
  else if n < 0x10000 then tagged 0xda 2 n
  else tagged 0xdb 4 n

/-- What stands in front of a byte sequence of length `n`. -/
def binHead (n : Nat) : Bytes :=
  if n < 0x100 then tagged 0xc4 1 n
  else if n < 0x10000 then tagged 0xc5 2 n
  else tagged 0xc6 4 n

/-- What stands in front of the tag of application data of length `n`. -/
def extHead (n : Nat) : Bytes :=
  if n = 1 then [0xd4]
  else if n = 2 then [0xd5]
  else if n = 4 then [0xd6]
  else if n = 8 then [0xd7]
  else if n = 16 then [0xd8]
  else if n < 0x100 then tagged 0xc7 1 n
  else if n < 0x10000 then tagged 0xc8 2 n
  else tagged 0xc9 4 n

/-- What stands in front of a list of `n` items. -/
def arrayHead (n : Nat) : Bytes :=
  if n < 0x10 then [UInt8.ofNat (0x90 + n)]
  else if n < 0x10000 then tagged 0xdc 2 n
  else tagged 0xdd 4 n

/-- What stands in front of `n` pairs. -/
def mapHead (n : Nat) : Bytes :=
  if n < 0x10 then [UInt8.ofNat (0x80 + n)]
  else if n < 0x10000 then tagged 0xde 2 n
  else tagged 0xdf 4 n

namespace Value

/-! ## Writing -/

mutual

/-- The bytes of a value. -/
def encode : Value → Bytes
  | .nil => [0xc0]
  | .bool false => [0xc2]
  | .bool true => [0xc3]
  | .uint n => uintBytes n
  | .sint i => sintBytes i
  | .float width bits => tagged (if width = 4 then 0xca else 0xcb) width bits
  | .str bytes => strHead bytes.length ++ bytes
  | .bin bytes => binHead bytes.length ++ bytes
  | .ext tag bytes => extHead bytes.length ++ tag :: bytes
  | .array items => arrayHead items.length ++ encodeItems items
  | .map entries => mapHead entries.length ++ encodeEntries entries

/-- The bytes of the items of a list. -/
def encodeItems : List Value → Bytes
  | [] => []
  | v :: vs => encode v ++ encodeItems vs

/-- The bytes of pairs. -/
def encodeEntries : List (Value × Value) → Bytes
  | [] => []
  | (k, v) :: es => encode k ++ encode v ++ encodeEntries es

end

/-! ## What the format has room for -/

/-- The number of bytes, items or pairs that a sequence must stay below. -/
def sizeBound : Nat := 0x100000000

mutual

/-- Whether the format can write the value inside of at most `depth` more containers. -/
def Writable (depth : Nat) : Value → Prop
  | .nil | .bool _ => True
  | .uint n => n < wordCount 8
  | .sint i => -0x8000000000000000 ≤ i ∧ i < 0x8000000000000000
  | .float width bits => (width = 4 ∨ width = 8) ∧ bits < wordCount width
  | .str bytes | .bin bytes | .ext _ bytes => bytes.length < sizeBound
  | .array items => 0 < depth ∧ items.length < sizeBound ∧ WritableItems (depth - 1) items
  | .map entries => 0 < depth ∧ entries.length < sizeBound ∧ WritableEntries (depth - 1) entries

/-- Whether all items can be written. -/
def WritableItems (depth : Nat) : List Value → Prop
  | [] => True
  | v :: vs => Writable depth v ∧ WritableItems depth vs

/-- Whether all keys and values can be written. -/
def WritableEntries (depth : Nat) : List (Value × Value) → Prop
  | [] => True
  | (k, v) :: es => Writable depth k ∧ Writable depth v ∧ WritableEntries depth es

end

/-! ## Building -/

/-- The value of a text. -/
def text (s : String) : Value := .str (Text.Utf8.encode s)

/-- A list of values. -/
def list {α : Type} (item : α → Value) (items : List α) : Value := .array (items.map item)

/-- A record: its fields by name. -/
def record (fields : List (String × Value)) : Value :=
  .map (fields.map fun field => (text field.1, field.2))

/-- A value that may be missing. -/
def optional {α : Type} (value : α → Value) : Option α → Value
  | none => .nil
  | some a => value a

end Value

end StressBatch.Msgpack
