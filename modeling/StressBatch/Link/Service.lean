import StressBatch.Link.Failure
import StressBatch.Scheduler.Summary
import StressBatch.TestResult

/-!
# The service behind the link

The two operations that workers need, as functions on the state of whoever provides them. A server
offers a service to the network; a client is the same service as seen from the other end.
-/

namespace StressBatch.Link

/-- Something that hands jobs out and takes results in, by token. -/
structure Service (σ : Type) where
  /-- The job of a token, or none if it was handed out before. -/
  pull : Token → σ → Except Failure (Option Job) × σ
  /-- Takes the result of a token in. -/
  push : Token → TestResult → σ → Except Failure Unit × σ

end StressBatch.Link
