import StressBatch.Time.Calendar
import StressBatch.Text.Blank
import StressBatch.Text.Decimal

/-!
# Timestamps

A moment in universal time, written in the form of RFC 3339: with `Z`, with as many fraction digits
as are needed out of 0, 3, 6 and 9, and with a sign in front of a year that does not have four
digits. The reader is more lenient: it takes any distance to universal time, a space in place of the
`T`, blanks around the parts, and any number of fraction digits, of which nine count.

A leap second, written with 60 seconds, is the second 59 with a thousand million nanoseconds or
more.
-/

namespace StressBatch.Time

/-- A moment in universal time. -/
structure Timestamp where
  /-- The seconds since the start of 1970. -/
  seconds : Int
  /-- The nanoseconds within the second; within a leap second they go on behind the last one. -/
  nanos : Nat
  deriving DecidableEq, Repr, Inhabited

namespace Timestamp

/-- The number of nanoseconds in a second. -/
def nanosPerSecond : Nat := 1000000000

/-- The number of seconds in a day. -/
def secondsPerDay : Nat := 86400

/-! ## Writing -/

/-- The text of a year: four digits, or a sign and at least four. -/
def yearText (year : Int) : String :=
  if 0 ≤ year ∧ year ≤ 9999 then Text.padded 4 year.toNat
  else if year < 0 then "-" ++ Text.padded 4 year.natAbs
  else "+" ++ Text.padded 4 year.natAbs

/-- The fewest fraction digits out of 0, 3, 6 and 9 that are exact, behind a point. -/
def fractionText (nanos : Nat) : String :=
  if nanos = 0 then ""
  else if nanos % 1000000 = 0 then "." ++ Text.padded 3 (nanos / 1000000)
  else if nanos % 1000 = 0 then "." ++ Text.padded 6 (nanos / 1000)
  else "." ++ Text.padded 9 nanos

/-- The text of a timestamp. -/
def text (t : Timestamp) : String :=
  let date := Date.ofDays (t.seconds / secondsPerDay)
  let clock := (t.seconds % secondsPerDay).toNat
  let leap := nanosPerSecond ≤ t.nanos
  let second := if leap then clock % 60 + 1 else clock % 60
  let nanos := if leap then t.nanos - nanosPerSecond else t.nanos
  yearText date.year ++ "-" ++ Text.padded 2 date.month ++ "-" ++ Text.padded 2 date.day ++ "T" ++
    Text.padded 2 (clock / 3600) ++ ":" ++ Text.padded 2 (clock / 60 % 60) ++ ":" ++
    Text.padded 2 second ++ fractionText nanos ++ "Z"

/-! ## Reading -/

/-- Reads something off the front of a text. -/
abbrev Reader (α : Type) := List Char → Option (α × List Char)

/-- A numeral of at least one and at most `max` digits. -/
def number? (max : Nat) : Reader Nat := fun cs =>
  let digits := (cs.take max).takeWhile fun c => (Text.digit? c).isSome
  (Text.digits? digits).map fun n => (n, cs.drop digits.length)

/-- A number of at most two digits; blanks may stand in front. -/
def twoDigits? : Reader Nat := fun cs => number? 2 (Text.trimFront cs)

/-- A year: at most four digits, or a sign and any number of digits. -/
def year? : Reader Int := fun cs =>
  match Text.trimFront cs with
  | '-' :: rest => (number? rest.length rest).map fun (n, rest) => (-(n : Int), rest)
  | '+' :: rest => (number? rest.length rest).map fun (n, rest) => ((n : Int), rest)
  | rest => (number? 4 rest).map fun (n, rest) => ((n : Int), rest)

/-- The text behind a separator; blanks may stand in front of it. -/
def separator? (c : Char) (cs : List Char) : Option (List Char) :=
  match Text.trimFront cs with
  | d :: rest => if c = d then some rest else none
  | [] => none

/-- A date that exists. -/
def date? : Reader Date := fun cs => do
  let (year, cs) ← year? cs
  let cs ← separator? '-' cs
  let (month, cs) ← twoDigits? cs
  let cs ← separator? '-' cs
  let (day, cs) ← twoDigits? cs
  let date : Date := ⟨year, month, day⟩
  if Date.inRange year ∧ date.exists? then some (date, cs) else none

/-- A fraction of a second in nanoseconds. Digits behind the ninth do not count. -/
def fraction? : Reader Nat
  | '.' :: cs =>
    let digits := (cs.take 9).takeWhile fun c => (Text.digit? c).isSome
    let rest := (cs.drop digits.length).dropWhile fun c => (Text.digit? c).isSome
    (Text.digits? digits).map fun n => (n * Nat.pow 10 (9 - digits.length), rest)
  | cs => some (0, cs)

/-- A time of the day: its second and the nanoseconds within it. -/
def clock? : Reader (Nat × Nat) := fun cs => do
  let (hour, cs) ← twoDigits? cs
  let cs ← separator? ':' cs
  let (minute, cs) ← twoDigits? cs
  let cs ← separator? ':' cs
  let (second, cs) ← twoDigits? cs
  let (nanos, cs) ← fraction? cs
  if 23 < hour ∨ 59 < minute ∨ 60 < second then none
  else if second = 60 then some ((hour * 3600 + minute * 60 + 59, nanosPerSecond + nanos), cs)
  else some ((hour * 3600 + minute * 60 + second, nanos), cs)

/-- Two digits. -/
def digitPair? : Reader Nat
  | a :: b :: cs =>
    match Text.digit? a, Text.digit? b with
    | some x, some y => some (x * 10 + y, cs)
    | _, _ => none
  | _ => none

/-- The seconds that local time is ahead of universal time. -/
def offset? : Reader Int := fun cs =>
  match cs with
  | 'Z' :: rest => some (0, rest)
  | 'z' :: rest => some (0, rest)
  | sign :: rest => do
    let negative ←
      if sign = '+' then some false
      else if sign = '-' ∨ sign = '−' then some true
      else none
    let (hours, rest) ← digitPair? rest
    let (minutes, rest) ← digitPair? (rest.dropWhile fun c => c == ':' || Text.isWhite c)
    let seconds : Int := hours * 3600 + minutes * 60
    if 59 < minutes ∨ 86400 ≤ seconds then none
    else some (if negative then -seconds else seconds, rest)
  | [] => none

/-- The distance to universal time, which may be the word `UTC` in any case. -/
def zone? : Reader Int := fun cs =>
  if (cs.take 3).map Char.toLower = ['u', 't', 'c'] then some (0, cs.drop 3) else offset? cs

/-- Reads a timestamp. -/
def ofText? (s : String) : Option Timestamp := do
  let (date, cs) ← date? s.toList
  let cs ←
    match cs with
    | c :: rest => if c = 'T' ∨ c = 't' ∨ c = ' ' then some rest else none
    | [] => none
  let ((second, nanos), cs) ← clock? cs
  let (offset, cs) ← zone? (Text.trimFront cs)
  let seconds := date.toDays * secondsPerDay + second - offset
  if Text.trimFront cs = [] ∧ Date.inRange (Date.ofDays (seconds / secondsPerDay)).year then
    some ⟨seconds, nanos⟩
  else none

end Timestamp

end StressBatch.Time
