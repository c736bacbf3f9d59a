import StressBatch.Msgpack.Value

/-!
# Reading MessagePack values

A value is read off the front of a byte sequence. Its head, the first byte and the number behind it,
tells what it is and how long; every form the format allows is read, not only the shortest. A
container may stand inside of at most `maxDepth` containers, itself included.
-/

namespace StressBatch.Msgpack

/-- Reads something off the front of a byte sequence. -/
abbrev Reader (α : Type) := Bytes → Option (α × Bytes)

/-- How deep containers may be nested. -/
def maxDepth : Nat := 1023

/-- Folds bytes into a number, most significant first. -/
def ofBigEndian (bytes : Bytes) : Nat := bytes.foldl (fun n b => n * 256 + b.toNat) 0

/-- Reads `n` bytes. -/
def takeBytes (n : Nat) : Reader Bytes := fun bytes =>
  if bytes.length < n then none else some (bytes.take n, bytes.drop n)

/-- Reads a number of `width` bytes. -/
def readNumber (width : Nat) : Reader Nat := fun bytes =>
  (takeBytes width bytes).map fun (taken, rest) => (ofBigEndian taken, rest)

/-- The signed number whose two's complement in `width` bytes is `n`. -/
def ofTwosComplement (width n : Nat) : Int :=
  if n < wordCount width / 2 then n else (n : Int) - (wordCount width : Nat)

/-- What the head of a value tells. -/
inductive Head where
  /-- The whole value. -/
  | whole (value : Value)
  /-- A text of the given length. -/
  | str (length : Nat)
  /-- A byte sequence of the given length. -/
  | bin (length : Nat)
  /-- Application data of the given length, behind the byte of its tag. -/
  | ext (length : Nat)
  /-- A list of the given length. -/
  | array (length : Nat)
  /-- A number of pairs. -/
  | map (length : Nat)
  deriving Repr

/-- Reads a head with a number of `width` bytes. -/
def headOf (make : Nat → Head) (width : Nat) : Reader Head := fun bytes =>
  (readNumber width bytes).map fun (n, rest) => (make n, rest)

/-- Reads the head that starts with the given byte. -/
def headFrom (first : Nat) : Reader Head := fun bytes =>
  if first < 0x80 then some (.whole (.uint first), bytes)
  else if first < 0x90 then some (.map (first - 0x80), bytes)
  else if first < 0xa0 then some (.array (first - 0x90), bytes)
  else if first < 0xc0 then some (.str (first - 0xa0), bytes)
  else if 0xe0 ≤ first then some (.whole (.sint ((first : Int) - 0x100)), bytes)
  else
    match first with
    | 0xc0 => some (.whole .nil, bytes)
    | 0xc2 => some (.whole (.bool false), bytes)
    | 0xc3 => some (.whole (.bool true), bytes)
    | 0xc4 => headOf .bin 1 bytes
    | 0xc5 => headOf .bin 2 bytes
    | 0xc6 => headOf .bin 4 bytes
    | 0xc7 => headOf .ext 1 bytes
    | 0xc8 => headOf .ext 2 bytes
    | 0xc9 => headOf .ext 4 bytes
    | 0xca => headOf (.whole ∘ .float 4) 4 bytes
    | 0xcb => headOf (.whole ∘ .float 8) 8 bytes
    | 0xcc => headOf (.whole ∘ .uint) 1 bytes
    | 0xcd => headOf (.whole ∘ .uint) 2 bytes
    | 0xce => headOf (.whole ∘ .uint) 4 bytes
    | 0xcf => headOf (.whole ∘ .uint) 8 bytes
    | 0xd0 => headOf (.whole ∘ .sint ∘ ofTwosComplement 1) 1 bytes
    | 0xd1 => headOf (.whole ∘ .sint ∘ ofTwosComplement 2) 2 bytes
    | 0xd2 => headOf (.whole ∘ .sint ∘ ofTwosComplement 4) 4 bytes
    | 0xd3 => headOf (.whole ∘ .sint ∘ ofTwosComplement 8) 8 bytes
    | 0xd4 => some (.ext 1, bytes)
    | 0xd5 => some (.ext 2, bytes)
    | 0xd6 => some (.ext 4, bytes)
    | 0xd7 => some (.ext 8, bytes)
    | 0xd8 => some (.ext 16, bytes)
    | 0xd9 => headOf .str 1 bytes
    | 0xda => headOf .str 2 bytes
    | 0xdb => headOf .str 4 bytes
    | 0xdc => headOf .array 2 bytes
    | 0xdd => headOf .array 4 bytes
    | 0xde => headOf .map 2 bytes
    | 0xdf => headOf .map 4 bytes
    | _ => none

/-- Reads a head. -/
def readHead : Reader Head
  | [] => none
  | first :: bytes => headFrom first.toNat bytes

/-- Reads `n` times. -/
def readTimes {α : Type} (read : Reader α) : (n : Nat) → Reader (List α)
  | 0 => fun bytes => some ([], bytes)
  | n + 1 => fun bytes =>
    match read bytes with
    | none => none
    | some (a, rest) => (readTimes read n rest).map fun (as, rest) => (a :: as, rest)

/-- Reads two things, one behind the other. -/
def readPair {α : Type} (read : Reader α) : Reader (α × α) := fun bytes =>
  match read bytes with
  | none => none
  | some (a, rest) => (read rest).map fun (b, rest) => ((a, b), rest)

/-- Reads what follows a head; `item` reads what is inside of a container. -/
def readBody (item : Reader Value) : Head → Reader Value
  | .whole value => fun bytes => some (value, bytes)
  | .str n => fun bytes => (takeBytes n bytes).map fun (taken, rest) => (.str taken, rest)
  | .bin n => fun bytes => (takeBytes n bytes).map fun (taken, rest) => (.bin taken, rest)
  | .ext n => fun bytes =>
    match bytes with
    | [] => none
    | tag :: bytes => (takeBytes n bytes).map fun (taken, rest) => (.ext tag taken, rest)
  | .array n => fun bytes =>
    (readTimes item n bytes).map fun (items, rest) => (.array items, rest)
  | .map n => fun bytes =>
    (readTimes (readPair item) n bytes).map fun (entries, rest) => (.map entries, rest)

/-- Whether what follows the head is a container. -/
def Head.isContainer : Head → Bool
  | .array _ | .map _ => true
  | _ => false

/-- Reads a value whose containers are nested at most `depth` deep. -/
def readValue : (depth : Nat) → Reader Value
  | 0 => fun bytes =>
    match readHead bytes with
    | none => none
    | some (head, rest) =>
      if head.isContainer then none else readBody (fun _ => none) head rest
  | depth + 1 => fun bytes =>
    match readHead bytes with
    | none => none
    | some (head, rest) => readBody (readValue depth) head rest

/-- The value at the front of a byte sequence. What stands behind it does not matter. -/
def Value.ofBytes? (bytes : Bytes) : Option Value := (readValue maxDepth bytes).map (·.1)

end StressBatch.Msgpack
