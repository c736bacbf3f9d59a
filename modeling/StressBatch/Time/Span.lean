/-!
# Spans of time

Seconds and nanoseconds, and the shortest exact text of a span in its natural unit.
-/

namespace StressBatch.Time

/-- A span of time. -/
structure Span where
  /-- The whole seconds. -/
  seconds : Nat
  /-- The nanoseconds beyond them, fewer than make a second. -/
  nanos : Nat
  deriving DecidableEq, Repr, Inhabited

namespace Span

/-- The span of a number of milliseconds. -/
def ofMillis (ms : Nat) : Span := ⟨ms / 1000, ms % 1000 * 1000000⟩

/-- The digits of `part / 10 ^ width` behind the point, without trailing zeros. -/
def fraction (width part : Nat) : String :=
  let digits := (toString part).toList
  let all := List.replicate (width - digits.length) '0' ++ digits
  String.ofList (all.reverse.dropWhile (· == '0')).reverse

/-- A number of units with the part of the next unit, which is `part / 10 ^ width`. -/
def inUnit (whole width part : Nat) (unit : String) : String :=
  let behind := fraction width part
  if part = 0 then toString whole ++ unit else toString whole ++ "." ++ behind ++ unit

/-- The text of a span: in seconds if there is one, else in the largest unit that fits. -/
def text (span : Span) : String :=
  if 0 < span.seconds then inUnit span.seconds 9 span.nanos "s"
  else if 1000000 ≤ span.nanos then inUnit (span.nanos / 1000000) 6 (span.nanos % 1000000) "ms"
  else if 1000 ≤ span.nanos then inUnit (span.nanos / 1000) 3 (span.nanos % 1000) "µs"
  else toString span.nanos ++ "ns"

end Span

end StressBatch.Time
