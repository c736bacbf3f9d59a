import StressBatch.Batch
import StressBatch.Proofs.Config
import StressBatch.Proofs.Scheduler.Faults
import StressBatch.Proofs.SortedMap

/-!
# What a batch reports

A batch that can be loaded has its jobs run and reports one line for each of them, however the run
goes; whether it fails is decided by the breaches of the protocol alone. A batch that cannot be
loaded fails before anything is run.
-/

namespace StressBatch.Batch

open Scheduler

/-! ## Loading -/

section Loading

variable {around : Surroundings} {args : Arguments} {config : Config} {jobs : List Job}

end Loading

/-! ## Reporting -/

/-- A line tells what became of a job: that it failed, or how many states were observed and how
often in all. -/
structure Describes (result : TestResult) (line : LogLine) : Prop where
  failed_iff : line.message = "job failed" ↔ result.status.isFailure = true
  passed_iff : line.message = "job passed" ↔ result.status.isFailure = false
  job_eq : line.fields.lookup "job" = some result.name
  counts_eq : result.status.isFailure = false →
    line.fields.lookup "states" = some (toString result.states.keys.toFinset.card) ∧
      line.fields.lookup "samples" = some (toString result.states.values.sum)

/-- The last line of a batch. -/
structure SumsUp (jobs : List Job) (summary : Summary Violation) (line : LogLine) : Prop where
  message_eq : line.message = "done"
  jobs_eq : line.fields.lookup "jobs" = some (toString jobs.length)
  failures_eq : line.fields.lookup "failures" =
    some (toString (summary.synthesizedFailures + summary.rejected))

/-- A batch reports on a run of its jobs: one line for each job and its result, then one line that
sums them up; and the exit code says whether a breach of the protocol was noted. -/
structure Reports (jobs : List Job) (run : State × List Effect) (outcome : Outcome) : Prop where
  jobs_perm : ((passed run.2).map fun r => r.1.job).Perm jobs
  log_eq : ∃ lines last, outcome.log = lines ++ [last] ∧
    List.Forall₂ (fun r line => Describes r.2 line) (passed run.2) lines ∧
    SumsUp jobs run.1.summary last
  exitCode_eq : outcome.ending.exitCode = if run.1.summary.violations = [] then 0 else 1

section Running

variable {around : Surroundings} {config : Config} {setup : Setup} {jobs : List Job}

end Running

end StressBatch.Batch
