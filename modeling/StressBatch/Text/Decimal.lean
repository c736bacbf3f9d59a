/-!
# Unsigned numerals

The numerals accepted on command lines, in variables and as port numbers: decimal digits with at
most one plus sign in front, and nothing else around them.
-/

namespace StressBatch.Text

/-- The value of a decimal digit. -/
def digit? (c : Char) : Option Nat :=
  if '0' ≤ c ∧ c ≤ '9' then some (c.toNat - 48) else none

/-- Folds decimal digits into a value, starting from `acc`. -/
def digitsFrom? (acc : Nat) : List Char → Option Nat
  | [] => some acc
  | c :: cs =>
    match digit? c with
    | none => none
    | some d => digitsFrom? (acc * 10 + d) cs

/-- The value of a non-empty sequence of decimal digits. -/
def digits? : List Char → Option Nat
  | [] => none
  | c :: cs => digitsFrom? 0 (c :: cs)

/-- The value of a numeral below `bound`: one leading plus sign is allowed, leading zeros are
allowed, a minus sign never is. -/
def numeral? (bound : Nat) (s : String) : Option Nat :=
  let value :=
    match s.toList with
    | '+' :: cs => digits? cs
    | cs => digits? cs
  value.filter (· < bound)

/-- The number of values of a 64-bit unsigned integer. -/
def word64 : Nat := 0x10000000000000000

/-- The number of values of a 16-bit unsigned integer. -/
def word16 : Nat := 0x10000

/-- A text of exactly the given width, with zeros in front. -/
def padded (width n : Nat) : String :=
  let text := toString n
  String.ofList (List.replicate (width - text.length) '0') ++ text

end StressBatch.Text
