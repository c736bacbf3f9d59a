import StressBatch.Failure
import StressBatch.TestResult
import StressBatch.Panic

/-!
# The workload registry

Workloads by harness. Executing a job always ends in one result, because whatever keeps the workload
from giving one is turned into a failure result; only a panic of the workload is passed on.
-/

namespace StressBatch

/-- What running a workload comes to. -/
inductive Attempt where
  /-- The workload gave a result. -/
  | returned (result : TestResult)
  /-- The workload gave up. -/
  | failed (failure : Failure)
  /-- The workload panicked. -/
  | panicked (panic : Panic)
  deriving DecidableEq, Repr

/-- A workload: the harness it answers to and what it makes of a job. -/
structure Workload where
  /-- The harness that the workload answers to. -/
  harness : String
  /-- Runs the workload on a job. -/
  run : Job → Attempt

/-- Workloads, at most one per harness, in the order of their registration. -/
structure Registry where
  /-- The workloads, oldest first. -/
  workloads : List Workload := []

namespace Registry

/-- The registry without workloads. -/
def empty : Registry := {}

/-- The workload that answers to a harness. -/
def get? (registry : Registry) (harness : String) : Option Workload :=
  registry.workloads.find? fun workload => workload.harness == harness

/-- How many workloads there are. -/
def size (registry : Registry) : Nat := registry.workloads.length

/-- Whether there is no workload. -/
def isEmpty (registry : Registry) : Bool := registry.size == 0

/-- Adds a workload unless its harness is taken. -/
def register (registry : Registry) (workload : Workload) : Except Failure Registry :=
  if (registry.get? workload.harness).isSome then .error (.duplicateHarness workload.harness)
  else .ok ⟨registry.workloads ++ [workload]⟩

/-- Runs the workload of a sound job. -/
def attempt (registry : Registry) (job : Job) : Attempt :=
  match job.validate with
  | .error failure => .failed failure
  | .ok () =>
    match registry.get? job.harness with
    | none => .failed (.unknownHarness job.harness)
    | some workload => workload.run job

/-- Runs a job to its one result. -/
def execute (registry : Registry) (job : Job) : Except Panic TestResult :=
  match registry.attempt job with
  | .returned result => .ok result
  | .failed failure => .ok (.failure job .testError [failure.message])
  | .panicked panic => .error panic

end Registry

end StressBatch
