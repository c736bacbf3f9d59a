/-!
# Jobs

A job is one stress test: a name, the roles its threads play, the execution mode of each role, the
harness that drives them, and where the job runs. A job is sound when its lists agree with its
thread count and it names a harness; `Job.fault?` tells the first thing that is wrong.
-/

namespace StressBatch

/-- How the workload method of one role may execute in the runtime of a forked worker. -/
inductive ExecutionMode where
  /-- The method stays in the interpreter. -/
  | interpreted
  /-- The method is compiled by the first tier only. -/
  | tier1
  /-- The method is compiled by the second tier only. -/
  | tier2
  deriving DecidableEq, Repr, Inhabited

namespace ExecutionMode

/-- All modes, in the order of their declaration. -/
def all : List ExecutionMode := [.interpreted, .tier1, .tier2]

/-- The name of a mode. -/
def name : ExecutionMode → String
  | .interpreted => "interpreted"
  | .tier1 => "tier1"
  | .tier2 => "tier2"

/-- The modes with their names. -/
def choices : List (String × ExecutionMode) := all.map fun mode => (mode.name, mode)

/-- Whether the mode is the interpreter. -/
def isInterpreted : ExecutionMode → Bool
  | .interpreted => true
  | _ => false

/-- Whether the mode is one of the compiler tiers. -/
def isCompiled (mode : ExecutionMode) : Bool := !mode.isInterpreted

end ExecutionMode

/-- Where a job runs. -/
inductive DispatchMode where
  /-- In the process of the scheduler. -/
  | embedded
  /-- In a worker process of its own. -/
  | forked
  deriving DecidableEq, Repr, Inhabited

namespace DispatchMode

/-- All dispatch modes, in the order of their declaration. -/
def all : List DispatchMode := [.embedded, .forked]

/-- The name of a dispatch mode. -/
def name : DispatchMode → String
  | .embedded => "embedded"
  | .forked => "forked"

/-- The dispatch modes with their names. -/
def choices : List (String × DispatchMode) := all.map fun mode => (mode.name, mode)

end DispatchMode

/-- One stress test to be run. -/
structure Job where
  /-- The name of the test, which also owns the workload methods of its roles. -/
  name : String
  /-- The number of threads, and with it of CPUs, that the job needs. -/
  threads : Nat
  /-- The role of each thread. -/
  roles : List String
  /-- The execution mode of each thread. -/
  modes : List ExecutionMode
  /-- Where the job runs. -/
  dispatch : DispatchMode
  /-- Arguments for the worker's runtime, behind the configured ones. -/
  launchArgs : List String := []
  /-- The harness that drives the roles. -/
  harness : String
  deriving DecidableEq, Repr, Inhabited

/-- What can be wrong with a job. -/
inductive JobFault where
  /-- The job has no thread. -/
  | noThreads
  /-- The number of roles is not the number of threads. -/
  | roleCount (roles threads : Nat)
  /-- The number of modes is not the number of threads. -/
  | modeCount (modes threads : Nat)
  /-- The harness has an empty name. -/
  | noHarness
  deriving DecidableEq, Repr

/-- The text of a fault. -/
def JobFault.message : JobFault → String
  | .noThreads => "job needs at least one thread"
  | .roleCount roles threads => s!"{roles} role names for {threads} threads"
  | .modeCount modes threads => s!"{modes} execution modes for {threads} threads"
  | .noHarness => "harness identifier is empty"

namespace Job

/-- The names of a job's fields in structured texts and messages, in order. -/
def fieldNames : List String :=
  ["name", "threads", "roles", "modes", "dispatch", "launch_args", "harness"]

/-- The job in which every role runs in the same mode. -/
def uniform (name harness : String) (roles : List String) (mode : ExecutionMode)
    (dispatch : DispatchMode) : Job where
  name := name
  threads := roles.length
  roles := roles
  modes := List.replicate roles.length mode
  dispatch := dispatch
  harness := harness

/-- The same job with other modes. -/
def withModes (job : Job) (modes : List ExecutionMode) : Job := { job with modes := modes }

/-- The same job with other launch arguments. -/
def withLaunchArgs (job : Job) (args : List String) : Job := { job with launchArgs := args }

/-- The role and mode of a thread, if the job lists both. -/
def role? (job : Job) (thread : Nat) : Option (String × ExecutionMode) :=
  match job.roles[thread]?, job.modes[thread]? with
  | some role, some mode => some (role, mode)
  | _, _ => none

/-- The first thing that is wrong with a job. -/
def fault? (job : Job) : Option JobFault :=
  if job.threads = 0 then some .noThreads
  else if job.roles.length ≠ job.threads then some (.roleCount job.roles.length job.threads)
  else if job.modes.length ≠ job.threads then some (.modeCount job.modes.length job.threads)
  else if job.harness = "" then some .noHarness
  else none

/-- A job whose lists agree with its thread count and that names a harness. -/
structure Sound (job : Job) : Prop where
  /-- There is a thread. -/
  threads_pos : 0 < job.threads
  /-- Every thread has a role. -/
  roles_length : job.roles.length = job.threads
  /-- Every thread has a mode. -/
  modes_length : job.modes.length = job.threads
  /-- The harness is named. -/
  harness_ne : job.harness ≠ ""

theorem fault?_eq_none_iff {job : Job} : job.fault? = none ↔ job.Sound := by
  constructor
  · intro h
    unfold fault? at h
    split at h <;> try contradiction
    split at h <;> try contradiction
    split at h <;> try contradiction
    split at h <;> try contradiction
    constructor <;> omega
  · rintro ⟨h1, h2, h3, h4⟩
    simp [fault?, h2, h3, h4, Nat.pos_iff_ne_zero.1 h1]

instance (job : Job) : Decidable job.Sound := decidable_of_iff _ fault?_eq_none_iff

end Job

end StressBatch
