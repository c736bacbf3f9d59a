import StressBatch.Document
import StressBatch.Toml.Text

/-!
# TOML: numbers, truth values and dates

A scalar without quotes is the longest run of letters, digits and the signs `+ - _ . :`. What kind
of value it is follows from its form alone.
-/

namespace StressBatch.Toml

/-! ## Numbers -/

/-- Whether a character is a decimal digit. -/
def isDigit (c : Char) : Bool := '0' ≤ c && c ≤ '9'

/-- The digits of a numeral in which single underscores may stand between digits; `afterDigit` says
whether the character before was a digit. -/
def underscored? (isDigit : Char → Bool) (afterDigit : Bool) : List Char → Option (List Char)
  | [] => if afterDigit then some [] else none
  | c :: cs =>
    if isDigit c then (underscored? isDigit true cs).map (c :: ·)
    else if c == '_' && afterDigit then
      match cs with
      | d :: rest =>
        if isDigit d then (underscored? isDigit true rest).map (d :: ·) else none
      | [] => none
    else none

/-- The value of digits in a base. -/
def valueOf (base : Nat) (digits : List Char) : Nat :=
  digits.foldl (fun acc c => acc * base + (hexDigit? c).getD 0) 0

/-- A decimal numeral without sign and without superfluous leading zeros. -/
def decimal? (cs : List Char) : Option Nat :=
  match underscored? isDigit false cs with
  | none => none
  | some digits =>
    if digits.length > 1 ∧ cs.head? = some '0' then none else some (valueOf 10 digits)

/-- A numeral in another base, behind its letter. -/
def based? (base : Nat) (cs : List Char) : Option Nat :=
  let isDigit c := ((hexDigit? c).any (· < base))
  (underscored? isDigit false cs).map (valueOf base)

/-- Splits a sign off. -/
def sign (cs : List Char) : Bool × List Char :=
  match cs with
  | '-' :: rest => (true, rest)
  | '+' :: rest => (false, rest)
  | _ => (false, cs)

/-- A whole number in any of its notations, whatever its size. -/
def integer? : List Char → Option Int
  | '0' :: 'x' :: cs => (based? 16 cs).map Int.ofNat
  | '0' :: 'o' :: cs => (based? 8 cs).map Int.ofNat
  | '0' :: 'b' :: cs => (based? 2 cs).map Int.ofNat
  | cs =>
    let (negative, digits) := sign cs
    (decimal? digits).map fun n => if negative then -(n : Int) else n

/-- Whether a whole number fits into 64 bits with a sign. -/
def fits64 (i : Int) : Bool := -0x8000000000000000 ≤ i && i < 0x8000000000000000

/-- Whether the characters are an exponent behind its letter. -/
def isExponent (cs : List Char) : Bool := (underscored? isDigit false (sign cs).2).isSome

/-- Whether the characters are a fraction behind its point, perhaps with an exponent. -/
def isFraction (cs : List Char) : Bool :=
  let digits := cs.takeWhile fun c => c != 'e' && c != 'E'
  (underscored? isDigit false digits).isSome &&
    match cs.drop digits.length with
    | [] => true
    | _ :: rest => isExponent rest

/-- Whether the characters are a number with a fraction, an exponent or both, or no finite number.
-/
def isFloat (cs : List Char) : Bool :=
  let unsigned := (sign cs).2
  unsigned == ['i', 'n', 'f'] || unsigned == ['n', 'a', 'n'] ||
    let whole := unsigned.takeWhile fun c => c != '.' && c != 'e' && c != 'E'
    (decimal? whole).isSome &&
      match unsigned.drop whole.length with
      | '.' :: rest => isFraction rest
      | _ :: rest => isExponent rest
      | [] => false

/-- The least number that rounds to no finite double: it lies halfway from the largest double to the
next power of two. -/
def doubleBound : Nat := Nat.pow 2 1024 - Nat.pow 2 970

/-- Whether a number with a fraction or an exponent is positive and rounds to no finite double. -/
def isTooLarge (cs : List Char) : Bool :=
  let (negative, unsigned) := sign (cs.filter (· != '_'))
  let whole := unsigned.takeWhile isDigit
  let (fraction, rest) :=
    match unsigned.drop whole.length with
    | '.' :: rest => (rest.takeWhile isDigit, rest.dropWhile isDigit)
    | rest => ([], rest)
  let (small, exponent) := sign (rest.drop 1)
  let shift : Int := valueOf 10 exponent
  let power := (if small then -shift else shift) - fraction.length
  let n := valueOf 10 (whole ++ fraction)
  let magnitude := (Nat.toDigits 10 n).length + power
  !negative && n != 0 &&
    (309 < magnitude ||
      magnitude == 309 && doubleBound * Nat.pow 10 (-power).toNat ≤ n * Nat.pow 10 power.toNat)

/-! ## Dates and times -/

/-- A numeral of exactly `count` digits. -/
def fixedDigits? (count : Nat) : Reader Nat := fun cs =>
  let digits := cs.take count
  if digits.length = count ∧ digits.all isDigit then some (valueOf 10 digits, cs.drop count)
  else none

/-- The text behind a character that has to come first. -/
def expect? (c : Char) : List Char → Option (List Char)
  | d :: cs => if c = d then some cs else none
  | [] => none

/-- The number of days of a month. -/
def daysOfMonth (year month : Nat) : Nat :=
  if month = 2 then
    if year % 4 = 0 ∧ (year % 100 ≠ 0 ∨ year % 400 = 0) then 29 else 28
  else if month = 4 ∨ month = 6 ∨ month = 9 ∨ month = 11 then 30
  else 31

/-- The text behind a date that exists. -/
def date? (cs : List Char) : Option (List Char) := do
  let (year, cs) ← fixedDigits? 4 cs
  let cs ← expect? '-' cs
  let (month, cs) ← fixedDigits? 2 cs
  let cs ← expect? '-' cs
  let (day, cs) ← fixedDigits? 2 cs
  if 1 ≤ month ∧ month ≤ 12 ∧ 1 ≤ day ∧ day ≤ daysOfMonth year month then some cs else none

/-- The text behind the fraction of a second, if there is one. -/
def secondFraction? : List Char → Option (List Char)
  | '.' :: cs =>
    let rest := cs.dropWhile isDigit
    if rest.length < cs.length then some rest else none
  | cs => some cs

/-- The text behind a time of the day. -/
def time? (cs : List Char) : Option (List Char) := do
  let (hour, cs) ← fixedDigits? 2 cs
  let cs ← expect? ':' cs
  let (minute, cs) ← fixedDigits? 2 cs
  let cs ← expect? ':' cs
  let (second, cs) ← fixedDigits? 2 cs
  if hour ≤ 23 ∧ minute ≤ 59 ∧ second ≤ 60 then secondFraction? cs else none

/-- Whether the characters are the distance to universal time, or nothing. -/
def isOffset (cs : List Char) : Bool :=
  match cs with
  | [] => true
  | ['Z'] => true
  | ['z'] => true
  | c :: rest =>
    (c == '+' || c == '-') &&
      match fixedDigits? 2 rest with
      | some (hour, ':' :: rest) =>
        match fixedDigits? 2 rest with
        | some (minute, []) => hour ≤ 23 && minute ≤ 59
        | _ => false
      | _ => false

/-- Whether the characters are a time of the day, perhaps with its distance to universal time. -/
def isZonedTime (cs : List Char) : Bool :=
  match time? cs with
  | some rest => isOffset rest
  | none => false

/-- What the characters are with respect to dates: a date that a time may follow behind a space, any
other date or time, or neither. -/
inductive DateForm where
  /-- A date without a time. -/
  | dateOnly
  /-- A date with a time, or a time. -/
  | complete
  /-- Neither. -/
  | neither
  deriving DecidableEq, Repr

/-- Tells dates and times from other scalars. -/
def dateForm (cs : List Char) : DateForm :=
  match date? cs with
  | some [] => .dateOnly
  | some (c :: rest) => if (c == 'T' || c == 't') && isZonedTime rest then .complete else .neither
  | none => if time? cs = some [] then .complete else .neither

/-! ## Scalars -/

/-- Whether a character may stand in a scalar without quotes. -/
def isScalarChar (c : Char) : Bool :=
  c.isAlphanum || c == '+' || c == '-' || c == '_' || c == '.' || c == ':'

/-- A scalar without quotes. -/
def scalar? : Reader Document := fun cs =>
  let token := cs.takeWhile isScalarChar
  let rest := cs.drop token.length
  if token = ['t', 'r', 'u', 'e'] then some (.bool true, rest)
  else if token = ['f', 'a', 'l', 's', 'e'] then some (.bool false, rest)
  else
    match dateForm token with
    | .complete => some (.date, rest)
    | .dateOnly =>
      match rest with
      | ' ' :: c :: more =>
        if isDigit c then
          let clock := (c :: more).takeWhile isScalarChar
          if isZonedTime clock then some (.date, (c :: more).drop clock.length) else none
        else some (.date, rest)
      | _ => some (.date, rest)
    | .neither =>
      match integer? token with
      | some i => if fits64 i then some (.int i, rest) else none
      | none => if isFloat token && !isTooLarge token then some (.float, rest) else none

end StressBatch.Toml
