import StressBatch.Registry

/-!
# Embedded jobs

A job that runs in the scheduler's own process is handed to a runner together with its CPUs. The
runner owes one result for it, and gives that result by finishing the job; a job that the runner
drops without finishing it is abandoned, and a result that says so takes the place of the one it
owed.
-/

namespace StressBatch

/-- An embedded job that a runner has taken on and not finished. -/
structure Ticket where
  /-- The job. -/
  job : Job
  /-- The CPUs that it holds. -/
  cpus : List Nat
  deriving DecidableEq, Repr

/-- The result of an embedded job whose runner dropped it. -/
def Ticket.abandonedResult (ticket : Ticket) : TestResult :=
  .failure ticket.job .testError ["Embedded runner finished without reporting a result"]

/-- What a runner does with a job at once. -/
inductive Submission where
  /-- It keeps the job for later. -/
  | kept
  /-- It finishes the job with a result. -/
  | finished (result : TestResult)
  /-- It drops the job. -/
  | dropped
  /-- It panics on the thread of the one who handed the job over, and the job is dropped. -/
  | panicked (panic : Panic)
  deriving DecidableEq, Repr

/-- A runner of embedded jobs: what it does with a job and its CPUs. -/
abbrev EmbeddedRunner := Job → List Nat → Submission

namespace EmbeddedRunner

/-- The runner that keeps every job. -/
def keeping : EmbeddedRunner := fun _ _ => .kept

/-- The runner that finishes every job at once with an empty result. -/
def instant : EmbeddedRunner := fun job _ => .finished { job := job, status := .normal }

/-- The runner that drops every job. -/
def dropping : EmbeddedRunner := fun _ _ => .dropped

/-- The runner that gives every job a thread, named after the job, on which the workload of its
harness is run. A panic of the workload ends that thread alone. -/
def threaded (registry : Registry) (snapshot : Environment) : EmbeddedRunner := fun job _ =>
  match threadName ("embedded-" ++ job.name) with
  | .error panic => .panicked panic
  | .ok _ =>
    match registry.execute job with
    | .ok result => .finished (result.setEnv snapshot)
    | .error _ => .dropped

end EmbeddedRunner

end StressBatch
