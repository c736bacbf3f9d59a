import StressBatch.SortedMap
import StressBatch.Job
import StressBatch.Text.Blank

/-!
# Results

What one run of a job produced: an outcome class, how often each state was observed, the environment
it ran in, and three lists of lines. A result is built by adding to it; blank lines are never added.
-/

namespace StressBatch

/-- The outcome class of a run. -/
inductive Status where
  /-- The workload ran. -/
  | normal
  /-- The workload does not fit the interface of its harness. -/
  | apiMismatch
  /-- The workload failed. -/
  | testError
  /-- The workload's own check failed. -/
  | checkTestError
  /-- The workload took too long. -/
  | timeoutError
  /-- The worker could not run the job. -/
  | vmError
  deriving DecidableEq, Repr, Inhabited

namespace Status

/-- All outcome classes, in the order of their declaration. -/
def all : List Status :=
  [.normal, .apiMismatch, .testError, .checkTestError, .timeoutError, .vmError]

/-- The name of an outcome class. -/
def name : Status → String
  | .normal => "Normal"
  | .apiMismatch => "ApiMismatch"
  | .testError => "TestError"
  | .checkTestError => "CheckTestError"
  | .timeoutError => "TimeoutError"
  | .vmError => "VmError"

/-- The outcome classes with their names. -/
def choices : List (String × Status) := all.map fun status => (status.name, status)

/-- Whether the outcome counts as a failure of the job. -/
def isFailure : Status → Bool
  | .normal | .apiMismatch => false
  | _ => true

end Status

/-- What is known about the host at the moment a snapshot is taken. -/
structure HostFacts where
  /-- The operating system. -/
  os : String
  /-- The processor architecture. -/
  arch : String
  /-- The process that takes the snapshot. -/
  processId : Nat
  /-- How many threads can run at once. -/
  parallelism : Nat
  /-- The time, as RFC 3339 text. -/
  time : String
  deriving DecidableEq, Repr

/-- A snapshot of the host that a job ran on. -/
structure Environment where
  /-- The facts, by name. -/
  entries : SortedMap String
  deriving DecidableEq, Repr

namespace Environment

/-- The snapshot without facts. -/
def empty : Environment := ⟨.empty⟩

instance : Inhabited Environment := ⟨empty⟩

/-- Sets a fact. -/
def put (env : Environment) (key value : String) : Environment := ⟨env.entries.insert key value⟩

/-- Looks a fact up. -/
def get? (env : Environment) (key : String) : Option String := env.entries.get? key

/-- The snapshot with the facts that every report shows. -/
def capture (facts : HostFacts) : Environment :=
  ((((empty.put "os" facts.os).put "arch" facts.arch).put "pid" (toString facts.processId)).put
    "available_parallelism" (toString facts.parallelism)).put "captured_at" facts.time

end Environment

/-- Everything that one run of a job produced. -/
structure TestResult where
  /-- The job that was run. -/
  job : Job
  /-- The outcome class. -/
  status : Status
  /-- How often each state was observed. -/
  states : SortedMap Nat := .empty
  /-- The host it ran on, if it was recorded. -/
  env : Option Environment := none
  /-- Messages for the reader. -/
  messages : List String := []
  /-- What the runtime wrote to its standard output. -/
  vmOut : List String := []
  /-- What the runtime wrote to its standard error. -/
  vmErr : List String := []
  deriving DecidableEq, Repr, Inhabited

namespace TestResult

/-- The lines of a list that are not blank. -/
def keptLines (lines : List String) : List String := lines.filter fun line => !Text.isBlank line

/-- Counts `n` more observations of a state. -/
def addState (result : TestResult) (label : String) (n : Nat) : TestResult :=
  { result with states := result.states.alter label fun old => old.getD 0 + n }

/-- Adds a message unless it is blank. -/
def addMessage (result : TestResult) (line : String) : TestResult :=
  { result with messages := result.messages ++ keptLines [line] }

/-- Adds the messages that are not blank. -/
def addMessages (result : TestResult) (lines : List String) : TestResult :=
  { result with messages := result.messages ++ keptLines lines }

/-- Adds the lines of standard output that are not blank. -/
def addVmOut (result : TestResult) (lines : List String) : TestResult :=
  { result with vmOut := result.vmOut ++ keptLines lines }

/-- Adds the lines of standard error that are not blank. -/
def addVmErr (result : TestResult) (lines : List String) : TestResult :=
  { result with vmErr := result.vmErr ++ keptLines lines }

/-- Records the host. -/
def setEnv (result : TestResult) (env : Environment) : TestResult := { result with env := some env }

/-- A result that carries diagnostic lines as its messages. -/
def failure (job : Job) (status : Status) (lines : List String) : TestResult :=
  ({ job := job, status := status } : TestResult).addMessages lines

/-- The name of the job that was run. -/
def name (result : TestResult) : String := result.job.name

/-- How often a state was observed. -/
def count (result : TestResult) (label : String) : Nat := (result.states.get? label).getD 0

/-- How many observations there were in all. -/
def totalCount (result : TestResult) : Nat := result.states.values.foldr (· + ·) 0

/-- Whether a state was observed at all. -/
def hasSamples (result : TestResult) : Bool := !result.states.entries.isEmpty

theorem keptLines_singleton {line : String} (h : Text.isBlank line = false) :
    keptLines [line] = [line] := by
  simp [keptLines, h]

theorem keptLines_append (xs ys : List String) :
    keptLines (xs ++ ys) = keptLines xs ++ keptLines ys := by
  simp [keptLines]

theorem addMessages_failure (job : Job) (status : Status) (lines more : List String) :
    (failure job status lines).addMessages more = failure job status (lines ++ more) := by
  simp [failure, addMessages, keptLines_append]

end TestResult

end StressBatch
