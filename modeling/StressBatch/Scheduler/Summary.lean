import StressBatch.Time.Span

/-!
# Run summaries

What happened during a run, in numbers, and the protocol violations in the order they were met.
-/

namespace StressBatch

/-- The token that names a forked worker. -/
abbrev Token := String

/-- How a peer broke the protocol. -/
inductive ViolationReason where
  /-- A second result came under the same token. -/
  | publishedTwice
  /-- A worker ended cleanly and left no result. -/
  | noResult
  /-- A request bore a token that names no live worker. -/
  | unknownToken
  /-- Any other reason, in words. -/
  | other (text : String)
  deriving DecidableEq, Repr

/-- The text of a reason. -/
def ViolationReason.message : ViolationReason → String
  | .publishedTwice => "result published twice"
  | .noResult => "worker exited cleanly without publishing a result"
  | .unknownToken => "unknown token"
  | .other text => text

/-- A breach of the protocol under some token. -/
structure Violation where
  /-- The token that the breach was committed under. -/
  token : Token
  /-- What the breach was. -/
  reason : ViolationReason
  deriving DecidableEq, Repr

/-- The text of a violation. -/
def Violation.message (violation : Violation) : String :=
  "protocol violation by " ++ violation.token ++ ": " ++ violation.reason.message

/-- What happened during a run. `α` is how a violation is recorded. -/
structure Summary (α : Type) where
  /-- The jobs handed to the scheduler. -/
  jobs : Nat := 0
  /-- The embedded jobs that were started. -/
  embeddedDispatched : Nat := 0
  /-- The embedded jobs that have given their CPUs back. -/
  embeddedCompleted : Nat := 0
  /-- The worker processes that were started. -/
  forkedDispatched : Nat := 0
  /-- The workers whose own result reached the log. -/
  forkedPassed : Nat := 0
  /-- The results that the scheduler made up for a forked job. -/
  synthesizedFailures : Nat := 0
  /-- The jobs that could never be dispatched. -/
  rejected : Nat := 0
  /-- The breaches of the protocol, in the order they were met. -/
  violations : List α := []
  /-- How long the run took. -/
  elapsed : Time.Span := ⟨0, 0⟩
  deriving DecidableEq, Repr, Inhabited

namespace Summary

variable {α : Type}

/-- How many results the run has added to the log. -/
def results (summary : Summary α) : Nat :=
  summary.embeddedCompleted + summary.forkedPassed + summary.synthesizedFailures + summary.rejected

/-- Whether nothing went wrong on the way: no violation, no made-up result and no rejected job. -/
def isClean (summary : Summary α) : Bool :=
  summary.violations.isEmpty && summary.synthesizedFailures == 0 && summary.rejected == 0

end Summary

end StressBatch
