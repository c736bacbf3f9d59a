import StressBatch.CpuLayout
import StressBatch.Embedded
import StressBatch.Link.Failure
import StressBatch.ResultLog
import StressBatch.Worker

/-!
# The state of a scheduler

A scheduler owns the CPU layout, the live forked workers and the queue of what others want from it.
Whoever else takes part, a link peer, an embedded runner or the user, only puts events into the
queue. `Setup` holds the conditions under which a run goes on.
-/

namespace StressBatch.Scheduler

/-- The conditions of a run. -/
structure Setup where
  /-- The machine. -/
  host : Host
  /-- How workers are launched. -/
  settings : LaunchSettings
  /-- Where the link server listens. -/
  endpoint : Link.Endpoint
  /-- Who runs embedded jobs. -/
  runner : EmbeddedRunner

/-- Something that waits to be handled by the scheduler. -/
inductive Event where
  /-- A peer asks for the job of a token. -/
  | pull (token : Token)
  /-- A peer hands a result over under a token. -/
  | push (token : Token) (result : TestResult)
  /-- An embedded job is done with its CPUs. -/
  | released (cpus : List Nat)
  /-- The user wants the worker of a token killed. -/
  | kill (token : Token)
  deriving DecidableEq, Repr

/-- How far a run has come. -/
inductive Phase where
  /-- There has been no run. -/
  | init
  /-- Jobs are being dispatched. -/
  | dispatching
  /-- All jobs have been dispatched, and some may still run. -/
  | draining
  /-- The run is over. -/
  | terminated
  /-- The scheduler's thread has panicked. -/
  | crashed (panic : Panic)
  deriving DecidableEq, Repr

/-- The name of a phase; a run that crashed never left the dispatching of jobs. -/
def Phase.name : Phase → String
  | .init => "Init"
  | .dispatching | .crashed _ => "Dispatching"
  | .draining => "Draining"
  | .terminated => "Terminated"

/-- Whether jobs may still be running. -/
def Phase.isActive : Phase → Bool
  | .dispatching | .draining => true
  | _ => false

/-- Whether a run has come to an end, be it by a panic. -/
def Phase.isOver : Phase → Bool
  | .terminated | .crashed _ => true
  | _ => false

/-- A scheduler at one moment. -/
structure State where
  /-- The CPUs. -/
  layout : CpuLayout
  /-- How far the run has come. -/
  phase : Phase := .init
  /-- The jobs that have not been dispatched, in order. -/
  pending : List Job := []
  /-- How many tokens have been issued. -/
  issued : Nat := 0
  /-- The live workers, oldest first. -/
  workers : List Worker := []
  /-- The embedded jobs that runners have kept, oldest first. -/
  tickets : List Ticket := []
  /-- The embedded jobs whose result has been passed on and that have not said that they are done
  with their CPUs, oldest first. -/
  leaving : List Ticket := []
  /-- The events that have not been handled, oldest first. -/
  queue : List Event := []
  /-- The results that have been passed on. -/
  log : ResultLog := .empty
  /-- What has happened so far. -/
  summary : Summary Violation := {}

/-- What a result is passed on for. -/
inductive Origin where
  /-- A job that was refused. -/
  | refused (job : Job)
  /-- An embedded job. -/
  | embedded (ticket : Ticket)
  /-- The forked job of a token. -/
  | forked (token : Token) (job : Job)
  deriving DecidableEq, Repr

/-- The job that a result is passed on for. -/
def Origin.job : Origin → Job
  | .refused job => job
  | .embedded ticket => ticket.job
  | .forked _ job => job

/-- What a step of a run shows to others. -/
inductive Effect where
  /-- A job was started on CPUs; a forked one bears a token. -/
  | started (job : Job) (cpus : List Nat) (token : Option Token)
  /-- A result was passed on. -/
  | passedOn (origin : Origin) (result : TestResult)
  /-- A pull was answered. -/
  | pulled (token : Token) (answer : Except Link.Failure (Option Job))
  /-- A push was answered. -/
  | pushed (token : Token) (answer : Except Link.Failure Unit)
  /-- The CPUs of an embedded job were given back. -/
  | reclaimed (cpus : List Nat)
  /-- A worker was taken off the live ones because of what checking on it came to. -/
  | harvested (worker : Worker) (checked : Checked)

namespace State

/-- A scheduler with the given number of CPUs that has not run. -/
def ofCapacity (capacity : Nat) : State := { layout := .ofCapacity capacity }

/-- The live worker of a token. -/
def worker? (s : State) (token : Token) : Option Worker :=
  s.workers.find? fun worker => worker.token == token

/-- The tokens of the live workers. -/
def liveTokens (s : State) : List Token := s.workers.map (·.token)

/-- The token with a number. -/
def tokenOf (n : Nat) : Token := "fork-token-" ++ toString n

/-- Changes the live worker of a token. -/
def updateWorker (s : State) (token : Token) (f : Worker → Worker) : State :=
  { s with
      workers := s.workers.map fun worker => if worker.token = token then f worker else worker }

/-- Takes the worker of a token off the live ones. -/
def removeWorker (s : State) (token : Token) : State :=
  { s with workers := s.workers.filter fun worker => worker.token ≠ token }

/-- Changes the counts of the run. -/
def count (s : State) (f : Summary Violation → Summary Violation) : State :=
  { s with summary := f s.summary }

/-- Notes a breach of the protocol. -/
def noteViolation (s : State) (violation : Violation) : State :=
  s.count fun c => { c with violations := c.violations ++ [violation] }

/-- Passes a result on. -/
def report (s : State) (result : TestResult) : State := { s with log := s.log.add result }

/-- Puts an event behind all others. -/
def enqueue (s : State) (event : Event) : State := { s with queue := s.queue ++ [event] }

/-- Panics on the scheduler's thread. -/
def crash (s : State) (panic : Panic) : State := { s with phase := .crashed panic }

/-- Gives CPUs back. To give back what is not held is a panic. -/
def giveBack (s : State) (cpus : List Nat) : State :=
  match s.layout.release cpus with
  | (none, layout) => { s with layout := layout }
  | (some fault, layout) => { s with layout := layout }.crash ⟨fault.message layout⟩

end State

end StressBatch.Scheduler
