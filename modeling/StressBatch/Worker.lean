import StressBatch.Directive
import StressBatch.Host
import StressBatch.Process
import StressBatch.Scheduler.Summary
import StressBatch.TestResult

/-!
# Workers

A forked worker and everything that is known about it. It is prepared, started and then checked
until it has completed. Meanwhile its peer takes the job, once, and hands a result over, once.
Completing yields one result: the worker's own if the process ended cleanly, else one that is made
up from what happened. A clean end without a result is a violation of the protocol, and only then is
the made-up result left to the caller.
-/

namespace StressBatch

/-- Where the result of a worker is kept until the worker has completed. -/
inductive ResultSlot where
  /-- No result has come. -/
  | pending
  /-- A result waits to be passed on. -/
  | delivered (result : TestResult)
  /-- The slot has been emptied; nothing can be put into it any more. -/
  | consumed
  deriving DecidableEq, Repr

namespace ResultSlot

/-- The result that waits in the slot. -/
def result? : ResultSlot → Option TestResult
  | .delivered result => some result
  | _ => none

/-- Puts a result into a slot that has not seen one. -/
def deliver (result : TestResult) : ResultSlot → Option ResultSlot
  | .pending => some (.delivered result)
  | _ => none

end ResultSlot

/-- How far a worker has come. -/
inductive WorkerPhase where
  /-- It is prepared. -/
  | created
  /-- Its process has been started. -/
  | started (process : Process)
  /-- It is over; `passed` says whether its own result was passed on. -/
  | completed (passed : Bool)
  deriving DecidableEq

/-- A forked worker. -/
structure Worker where
  /-- The token that names it. -/
  token : Token
  /-- The job it is to run. -/
  job : Job
  /-- The CPUs it may use. -/
  cpus : List Nat
  /-- Its command line. -/
  command : List String
  /-- The text of its directive file. -/
  directives : Option String
  /-- Whether the job has been handed out. -/
  jobTaken : Bool := false
  /-- The result that came over the link. -/
  slot : ResultSlot := .pending
  /-- The lines of standard output that a violation result has to carry. -/
  heldOut : List String := []
  /-- The lines of standard error that a violation result has to carry. -/
  heldErr : List String := []
  /-- How far it has come. -/
  phase : WorkerPhase := .created
  deriving DecidableEq

/-- What checking on a worker comes to. -/
inductive Checked where
  /-- The worker has not ended. -/
  | unfinished
  /-- The worker had completed before. -/
  | finished
  /-- The worker has just completed, with this result. -/
  | reported (result : TestResult)
  /-- The worker has just completed without a result, and so has broken the protocol. -/
  | violated (violation : Violation)
  deriving DecidableEq

namespace Checked

/-- The result that is passed on because of the check. -/
def result? : Checked → Option TestResult
  | .reported result => some result
  | _ => none

/-- Whether the worker has completed, or how it broke the protocol. -/
def answer : Checked → Except Violation Bool
  | .unfinished => .ok false
  | .finished | .reported _ => .ok true
  | .violated violation => .error violation

end Checked

/-- Why a worker could not be prepared. -/
inductive PrepareFault where
  /-- The host refused a file. -/
  | io (fault : IoFault)
  /-- The directives of the job could not be made. -/
  | panicked (panic : Panic)
  deriving DecidableEq, Repr

namespace Worker

/-! ## Preparing -/

/-- The text of the directive file of a job, with its path, if the runtime takes such a file. -/
def directiveFile (host : Host) (settings : LaunchSettings) (token : Token) (job : Job) :
    Except PrepareFault (Option (String × String)) :=
  match settings.directives with
  | none => .ok none
  | some config =>
    match host.scratchFile token ".directives" with
    | .error fault => .error (.io fault)
    | .ok path =>
      match DirectiveSet.ofJob job config with
      | .error panic => .error (.panicked panic)
      | .ok set => .ok (some (path, set.render))

/-- Prepares a worker: its capture files, its directive file and its command line. -/
def prepare (host : Host) (settings : LaunchSettings) (endpoint : Link.Endpoint) (token : Token)
    (job : Job) (cpus : List Nat) : Except PrepareFault Worker := do
  let _ ← (host.scratchFile token ".stdout").mapError PrepareFault.io
  let _ ← (host.scratchFile token ".stderr").mapError PrepareFault.io
  let file ← directiveFile host settings token job
  return {
    token := token
    job := job
    cpus := cpus
    command := settings.commandLine job cpus (file.map (·.1)) endpoint token
    directives := file.map (·.2) }

/-! ## Running -/

/-- Starts the process of a worker that is only prepared. -/
def start (host : Host) (worker : Worker) : Worker :=
  match worker.phase with
  | .created => { worker with phase := .started (host.spawn worker.command) }
  | _ => worker

/-- Changes the process of a worker, if it has one. -/
def mapProcess (f : Process → Process) (worker : Worker) : Worker :=
  match worker.phase with
  | .started process => { worker with phase := .started (f process) }
  | _ => worker

/-- Sends the process the signal that ends it. -/
def kill (worker : Worker) : Worker := worker.mapProcess Process.kill

/-- The process comes to its end, if it runs. -/
def finish (exit : Exit) (worker : Worker) : Worker := worker.mapProcess (Process.finish exit)

/-- The operating system stops giving news of the process, if it runs. -/
def lose (fault : IoFault) (worker : Worker) : Worker := worker.mapProcess (Process.lose fault)

/-- Whether the process is running. -/
def isRunning (worker : Worker) : Bool :=
  match worker.phase with
  | .started process => !process.isOver
  | _ => false

/-- Whether the process has been sent the signal that ends it and has not ended yet. -/
def isDying (worker : Worker) : Bool :=
  match worker.phase with
  | .started (.running true) => true
  | _ => false

/-! ## What the peer does -/

/-- Hands the job out: the first time, and then no more. -/
def takeJob (worker : Worker) : Option Job × Worker :=
  if worker.jobTaken then (none, worker) else (some worker.job, { worker with jobTaken := true })

/-- Accepts the first result that comes while the slot is open. -/
def record (worker : Worker) (result : TestResult) : Except Violation Worker :=
  match worker.slot.deliver result with
  | some slot => .ok { worker with slot := slot }
  | none => .error ⟨worker.token, .publishedTwice⟩

/-! ## Completing -/

/-- A result of the worker's job that only says what went wrong. -/
def failureResult (worker : Worker) (line : String) : TestResult :=
  .failure worker.job .vmError [line]

/-- The result of a worker whose process ended in any other way than cleanly. What the peer handed
over is not trusted, and all output becomes part of the message. -/
def crashResult (worker : Worker) (exit : Exit) : TestResult :=
  ((worker.failureResult exit.ending.message).addMessages exit.outLines).addMessages exit.errLines

/-- The result that the peer handed over, with the process's output. -/
def ownResult (result : TestResult) (exit : Exit) : TestResult :=
  (result.addVmOut exit.outLines).addVmErr exit.errLines

/-- Completes a worker whose process has ended. -/
def conclude (worker : Worker) (exit : Exit) : Worker × Checked :=
  let emptied := { worker with slot := .consumed }
  if exit.ending.isClean then
    match worker.slot.result? with
    | some result =>
      ({ emptied with phase := .completed true }, .reported (ownResult result exit))
    | none =>
      ({ emptied with
          heldOut := exit.outLines, heldErr := exit.errLines, phase := .completed false },
        .violated ⟨worker.token, .noResult⟩)
  else ({ emptied with phase := .completed false }, .reported (worker.crashResult exit))

/-- Checks on a worker. -/
def check (worker : Worker) : Worker × Checked :=
  match worker.phase with
  | .created => (worker, .unfinished)
  | .completed _ => (worker, .finished)
  | .started (.running _) => (worker, .unfinished)
  | .started (.refused fault) =>
    ({ worker with phase := .completed false },
      .reported (worker.failureResult ("Failed to launch worker: " ++ fault.message)))
  | .started (.lost fault) =>
    ({ worker with phase := .completed false },
      .reported (worker.failureResult ("Failed to collect worker exit status: " ++ fault.message)))
  | .started (.ended exit) => worker.conclude exit

/-- The result that stands in for the one a worker owed. It carries the output that the worker left
behind, once. -/
def violationResult (worker : Worker) (violation : Violation) : TestResult × Worker :=
  (((worker.failureResult violation.message).addVmOut worker.heldOut).addVmErr worker.heldErr,
    { worker with heldOut := [], heldErr := [] })

end Worker

end StressBatch
