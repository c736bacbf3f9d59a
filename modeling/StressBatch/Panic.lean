import StressBatch.Text.Utf8

/-!
# Panics

A panic ends the thread it happens on, and nothing that the thread still had to do is done. Here it
is a value: the text that the thread leaves behind.
-/

namespace StressBatch

/-- The text a thread leaves behind when it panics. -/
structure Panic where
  /-- What went wrong. -/
  text : String
  deriving DecidableEq, Repr, Inhabited

/-- A list was asked for an item that it does not have. -/
def Panic.indexOutside (length index : Nat) : Panic :=
  ⟨s!"index out of bounds: the len is {length} but the index is {index}"⟩

/-- The position of the first NUL byte. -/
def nulPosition? (bytes : Bytes) : Option Nat := bytes.findIdx? (· == 0)

/-- Naming a thread panics if the name contains a NUL. -/
def threadName (name : String) : Except Panic String :=
  let bytes := Text.Utf8.encode name
  match nulPosition? bytes with
  | none => .ok name
  | some position =>
    .error ⟨s!"thread name may not contain interior null bytes: NulError({position}, " ++
      "[" ++ String.intercalate ", " (bytes.map fun b => toString b.toNat) ++ "])"⟩

end StressBatch
