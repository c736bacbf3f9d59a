import StressBatch.Scheduler.State

/-!
# The steps of a run

Every change of a scheduler's state is a `Move`: one of the scheduler itself, or one of somebody
around it, a link peer, a process, an embedded runner or the user. `step` carries a move out; a move
that is not possible changes nothing. A run is any sequence of moves, so what holds of every run
holds however its participants interleave.

Jobs are dispatched strictly in order: the first job that waits for CPUs keeps all later ones
waiting.
-/

namespace StressBatch.Scheduler

namespace State

/-! ## Dispatching -/

/-- Why a job can never be dispatched. -/
def refusal? (s : State) (job : Job) : Option String :=
  match job.validate with
  | .error failure => some failure.message
  | .ok () =>
    if s.layout.capacity < job.threads then
      some s!"job needs {job.threads} threads, the budget is {s.layout.capacity}"
    else none

/-- The result of a job that is refused. -/
def refusal (job : Job) (reason : String) : TestResult := .failure job .testError [reason]

/-- Refuses a job. -/
def reject (s : State) (job : Job) (reason : String) : State :=
  (s.report (refusal job reason)).count fun c => { c with rejected := c.rejected + 1 }

/-- An embedded job is over at once: its result is passed on, then its CPUs are on their way
back. -/
def complete (s : State) (ticket : Ticket) (result : TestResult) : State :=
  (s.report result).enqueue (.released ticket.cpus)

/-- Hands an embedded job to its runner. -/
def startEmbedded (setup : Setup) (s : State) (ticket : Ticket) : State × List Effect :=
  let s := s.count fun c => { c with embeddedDispatched := c.embeddedDispatched + 1 }
  match setup.runner ticket.job ticket.cpus with
  | .kept => ({ s with tickets := s.tickets ++ [ticket] }, [])
  | .finished result => (s.complete ticket result, [.passedOn (.embedded ticket) result])
  | .dropped =>
    (s.complete ticket ticket.abandonedResult,
      [.passedOn (.embedded ticket) ticket.abandonedResult])
  | .panicked panic =>
    ((s.complete ticket ticket.abandonedResult).crash panic,
      [.passedOn (.embedded ticket) ticket.abandonedResult])

/-- The result of a job whose worker cannot be prepared. -/
def unpreparedResult (job : Job) (fault : IoFault) : TestResult :=
  .failure job .vmError ["Failed to prepare worker: " ++ (Failure.io fault).message]

/-- Prepares and starts a forked worker under the next token. A worker that cannot be prepared gives
its CPUs back at once. -/
def startForked (setup : Setup) (s : State) (job : Job) (cpus : List Nat) : State × List Effect :=
  let s := { s with issued := s.issued + 1 }
  let token := tokenOf s.issued
  match Worker.prepare setup.host setup.settings setup.endpoint token job cpus with
  | .ok worker =>
    ({ s with workers := s.workers ++ [worker.start setup.host] }.count fun c =>
      { c with forkedDispatched := c.forkedDispatched + 1 }, [])
  | .error (.panicked panic) => (s.crash panic, [])
  | .error (.io fault) =>
    (((s.report (unpreparedResult job fault)).count fun c =>
      { c with synthesizedFailures := c.synthesizedFailures + 1 }).giveBack cpus,
      [.passedOn (.forked token job) (unpreparedResult job fault)])

/-- The token that a job is started under: none if it is embedded, else the next one. -/
def tokenFor (s : State) (job : Job) : Option Token :=
  match job.dispatch with
  | .embedded => none
  | .forked => some (tokenOf (s.issued + 1))

/-- Starts a job on CPUs that have been acquired for it. -/
def startJob (setup : Setup) (s : State) (job : Job) (cpus : List Nat) : State × List Effect :=
  let (after, effects) :=
    match job.dispatch with
    | .embedded => s.startEmbedded setup ⟨job, cpus⟩
    | .forked => s.startForked setup job cpus
  (after, .started job cpus (s.tokenFor job) :: effects)

/-- Dispatches a job: refuses it, or starts it on the lowest free CPUs. There is no answer while too
few CPUs are free. -/
def dispatchJob (setup : Setup) (s : State) (job : Job) : Option (State × List Effect) :=
  let s := s.count fun c => { c with jobs := c.jobs + 1 }
  match s.refusal? job with
  | some reason => some (s.reject job reason, [.passedOn (.refused job) (refusal job reason)])
  | none =>
    match s.layout.tryAcquire job.threads with
    | none => none
    | some (cpus, layout) => some ({ s with layout := layout }.startJob setup job cpus)

/-- Dispatches the first job that is pending. -/
def dispatch (setup : Setup) (s : State) : Option (State × List Effect) :=
  match s.phase, s.pending with
  | .dispatching, job :: rest => { s with pending := rest }.dispatchJob setup job
  | _, _ => none

/-- Ends the dispatching once no job is pending. -/
def drain (s : State) : Option State :=
  match s.phase, s.pending with
  | .dispatching, [] => some { s with phase := .draining }
  | _, _ => none

/-- Ends the run once all CPUs can be acquired, which is when every job has given its own back. -/
def close (s : State) (elapsed : Time.Span) : Option State :=
  match s.phase, s.layout.tryAcquire s.layout.capacity with
  | .draining, some (cpus, layout) =>
    let s := { s with layout := layout }.giveBack cpus
    if s.phase = .draining then
      some { s with phase := .terminated, summary := { s.summary with elapsed := elapsed } }
    else some s
  | _, _ => none

/-! ## Handling events -/

/-- A request bears a token that names no live worker. -/
def unknownToken (s : State) (token : Token) : State := s.noteViolation ⟨token, .unknownToken⟩

/-- Handles an event. -/
def handleEvent (s : State) : Event → State × List Effect
  | .pull token =>
    match s.worker? token with
    | some worker =>
      (s.updateWorker token fun w => w.takeJob.2, [.pulled token (.ok worker.takeJob.1)])
    | none => (s.unknownToken token, [.pulled token (.error (.unknownToken token))])
  | .push token result =>
    match s.worker? token with
    | some worker =>
      match worker.record result with
      | .ok after => (s.updateWorker token fun _ => after, [.pushed token (.ok ())])
      | .error violation =>
        (s.noteViolation violation, [.pushed token (.error (.protocol violation.message))])
    | none => (s.unknownToken token, [.pushed token (.error (.unknownToken token))])
  | .released cpus =>
    let s := s.giveBack cpus
    if s.phase.isActive then
      (s.count fun c => { c with embeddedCompleted := c.embeddedCompleted + 1 }, [.reclaimed cpus])
    else (s, [])
  | .kill token => (s.updateWorker token Worker.kill, [])

/-- Handles the oldest event. -/
def handle (s : State) : Option (State × List Effect) :=
  match s.phase.isActive, s.queue with
  | true, event :: rest => some ({ s with queue := rest }.handleEvent event)
  | _, _ => none

/-! ## Harvesting workers -/

/-- Takes a worker that has been checked off the live ones, if it is over: counts it, makes up the
result it owes, and gives its CPUs back. -/
def harvest (s : State) (worker : Worker) (checked : Checked) : State × List Effect :=
  match checked with
  | .unfinished => (s, [])
  | .violated violation =>
    let result := (worker.violationResult violation).1
    let s := ((s.removeWorker worker.token).noteViolation violation).report result
    let s := s.count fun c => { c with synthesizedFailures := c.synthesizedFailures + 1 }
    (s.giveBack worker.cpus,
      [.passedOn (.forked worker.token worker.job) result, .harvested worker checked])
  | .finished | .reported _ =>
    let s := (s.removeWorker worker.token).count fun c =>
      if worker.phase = .completed true then { c with forkedPassed := c.forkedPassed + 1 }
      else { c with synthesizedFailures := c.synthesizedFailures + 1 }
    (s.giveBack worker.cpus, [.harvested worker checked])

/-- Harvests workers one after the other, until a panic. -/
def harvestAll (s : State) : List (Worker × Checked) → State × List Effect
  | [] => (s, [])
  | (worker, checked) :: rest =>
    if s.phase.isActive then
      let (s, effects) := s.harvest worker checked
      let (s, more) := s.harvestAll rest
      (s, effects ++ more)
    else (s, [])

/-- What checking on live workers in the given order comes to. -/
def checks (s : State) (order : List Token) : List (Worker × Checked) :=
  order.filterMap fun token => (s.worker? token).map Worker.check

/-- What is shown of a result that a worker reports. -/
def reportEffect? (checked : Worker × Checked) : Option Effect :=
  checked.2.result?.map (.passedOn (.forked checked.1.token checked.1.job))

/-- Checks on all live workers in the given order, then harvests those that are over. The results
that workers report are passed on first, those that have to be made up after them. -/
def reap (s : State) (order : List Token) : Option (State × List Effect) :=
  if s.phase.isActive ∧ order.isPerm s.liveTokens then
    let checked := s.checks order
    let reported := checked.filterMap fun c => c.2.result?
    let (s, effects) := (reported.foldl report s).harvestAll checked
    some (s, checked.filterMap reportEffect? ++ effects)
  else none

/-! ## Later runs -/

/-- Why a scheduler that has run refuses a job. -/
def alreadyRun : String := "scheduler has already run"

/-- Hands jobs to a scheduler. It runs once; after that, even if the run has ended in a panic, it
refuses all jobs. -/
def submit (s : State) (jobs : List Job) : Option (State × List Effect) :=
  match s.phase with
  | .init => some ({ s with phase := .dispatching, pending := jobs }, [])
  | .terminated | .crashed _ =>
    some (jobs.foldl (fun s job =>
      (s.count fun c => { c with jobs := c.jobs + 1 }).reject job alreadyRun) s,
      jobs.map fun job => .passedOn (.refused job) (refusal job alreadyRun))
  | _ => none

end State

/-! ## Moves -/

/-- One change of a scheduler's state. -/
inductive Move where
  /-- The user hands jobs over. -/
  | submit (jobs : List Job)
  /-- The scheduler dispatches the first pending job. -/
  | dispatch
  /-- The scheduler stops dispatching. -/
  | drain
  /-- The scheduler handles the oldest event. -/
  | handle
  /-- The scheduler checks on all live workers, in some order. -/
  | reap (order : List Token)
  /-- The scheduler ends the run. -/
  | close (elapsed : Time.Span)
  /-- A link peer or the user puts an event into the queue. -/
  | request (event : Event)
  /-- A runner finishes one of the jobs it has kept: the result is passed on. -/
  | finish (ticket : Nat) (result : TestResult)
  /-- A runner drops one of the jobs it has kept: a result that says so is passed on. -/
  | abandon (ticket : Nat)
  /-- An embedded job whose result has been passed on says that it is done with its CPUs. -/
  | notify (ticket : Nat)
  /-- The process of a worker ends. -/
  | exit (token : Token) (exit : Exit)
  /-- The operating system stops giving news of a worker's process. -/
  | lose (token : Token) (fault : IoFault)

/-- A move and the conditions it is carried out under. What a host has room for and what a runner
does with a job at once may change from one move to the next. -/
structure Act where
  /-- The conditions. -/
  setup : Setup
  /-- The move. -/
  move : Move

/-- Whether an event may come from outside. Only the end of an embedded job gives CPUs back. -/
def Event.isRequest : Event → Bool
  | .released _ => false
  | _ => true

namespace State

/-- A runner disposes of the kept job at a position; `result` makes the result it leaves. -/
def dispose (s : State) (position : Nat) (result : Ticket → TestResult) :
    Option (State × List Effect) :=
  (s.tickets[position]?).map fun ticket =>
    ({ s with
        tickets := s.tickets.eraseIdx position
        leaving := s.leaving ++ [ticket] }.report (result ticket),
      [.passedOn (.embedded ticket) (result ticket)])

/-- The job at a position of those that are leaving says that it is done with its CPUs. -/
def notify (s : State) (position : Nat) : Option State :=
  (s.leaving[position]?).map fun ticket =>
    { s with leaving := s.leaving.eraseIdx position }.enqueue (.released ticket.cpus)

/-- Carries out a move, if it is possible. -/
def step? (setup : Setup) (s : State) : Move → Option (State × List Effect)
  | .submit jobs => s.submit jobs
  | .dispatch => s.dispatch setup
  | .drain => s.drain.map fun s => (s, [])
  | .handle => s.handle
  | .reap order => s.reap order
  | .close elapsed => (s.close elapsed).map fun s => (s, [])
  | .request event => if event.isRequest then some (s.enqueue event, []) else none
  | .finish ticket result => s.dispose ticket fun _ => result
  | .abandon ticket => s.dispose ticket Ticket.abandonedResult
  | .notify ticket => (s.notify ticket).map fun s => (s, [])
  | .exit token exit => some (s.updateWorker token (Worker.finish exit), [])
  | .lose token fault => some (s.updateWorker token (Worker.lose fault), [])

/-- Carries out a move; one that is not possible changes nothing. -/
def step (setup : Setup) (s : State) (move : Move) : State × List Effect :=
  (s.step? setup move).getD (s, [])

/-- Carries out a sequence of moves, each under conditions of its own. -/
def trace (s : State) : List Act → State × List Effect
  | [] => (s, [])
  | act :: acts =>
    let (s, effects) := s.step act.setup act.move
    let (s, more) := s.trace acts
    (s, effects ++ more)

/-- Carries out a sequence of moves under conditions that stay the same. -/
def run (setup : Setup) (s : State) (moves : List Move) : State × List Effect :=
  s.trace (moves.map (Act.mk setup))

end State

end StressBatch.Scheduler
