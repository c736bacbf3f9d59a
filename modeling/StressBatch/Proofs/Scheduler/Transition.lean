import StressBatch.Proofs.CpuLayout
import StressBatch.Proofs.Worker
import StressBatch.Scheduler.Step

/-!
# What a step can do

`Transition` lists everything that one step of a scheduler can do, with the state it leaves in full
and what it shows. No panic of the scheduler's own occurs in it: in a `Consistent` state, one whose
held CPUs are exactly those of the live workers and of the embedded jobs that have not given theirs
back, all CPUs that a step gives back are held. `transition_of_step?` says that the steps of a
consistent state are the listed ones; everything that is proved of runs is derived from the list.
-/

namespace StressBatch

/-- Whether the CPUs of a job are ascending and as many as its threads, of which it has some. -/
structure Ticket.Fits (ticket : Ticket) : Prop where
  ascending : ticket.cpus.Pairwise (· < ·)
  length_eq : ticket.cpus.length = ticket.job.threads
  threads_pos : 0 < ticket.job.threads

namespace Scheduler

/-- The CPUs that an event gives back. -/
def Event.cpus? : Event → Option (List Nat)
  | .released cpus => some cpus
  | _ => none

/-- The CPU accounts of a state are in order. `held` are the embedded jobs that have been started
and whose CPUs have not been given back. -/
structure Consistent (s : State) (held : List Ticket) : Prop where
  /-- The held CPUs are those of the live workers and of the embedded jobs. -/
  busy_perm : s.layout.busy.Perm ((s.workers.map Worker.ticket ++ held).flatMap Ticket.cpus)
  /-- Every active job has as many CPUs as threads. -/
  fits : ∀ ticket ∈ s.workers.map Worker.ticket ++ held, ticket.Fits
  /-- Every embedded job is with its runner, leaving, or has its CPUs in the queue. -/
  places : ∃ gone, held.Perm (s.tickets ++ s.leaving ++ gone) ∧
    s.queue.filterMap Event.cpus? = gone.map Ticket.cpus
  /-- No two live workers share a token. -/
  nodup_tokens : s.liveTokens.Nodup
  /-- The tokens of live workers have been issued. -/
  issued_tokens : ∀ token ∈ s.liveTokens, ∃ n < s.issued, token = State.tokenOf (n + 1)
  /-- The process of every live worker has been started. -/
  started : ∀ worker ∈ s.workers, ∃ process, worker.phase = .started process
  /-- Outside of a run nothing is active. -/
  at_rest : s.phase = .init ∨ s.phase = .terminated → s.workers = [] ∧ held = []
  /-- Jobs are pending only while they are dispatched. -/
  pending_eq_nil : s.phase = .init ∨ s.phase = .draining ∨ s.phase = .terminated → s.pending = []

/-- How an embedded job ends that its runner does not keep: the result that is passed on, and the
phase that the scheduler is left in. -/
inductive EndsAtOnce (ticket : Ticket) : Submission → TestResult → Phase → Prop where
  /-- The runner finishes the job. -/
  | finished (result : TestResult) : EndsAtOnce ticket (.finished result) result .dispatching
  /-- The runner drops the job. -/
  | dropped : EndsAtOnce ticket .dropped ticket.abandonedResult .dispatching
  /-- The runner panics. -/
  | panicked (panic : Panic) :
    EndsAtOnce ticket (.panicked panic) ticket.abandonedResult (.crashed panic)

/-- What is shown of a worker that is harvested. -/
def harvestEffects (checked : Worker × Checked) : List Effect :=
  match checked.2 with
  | .violated violation =>
    [.passedOn (.forked checked.1.token checked.1.job) (checked.1.violationResult violation).1,
      .harvested checked.1 checked.2]
  | _ => [.harvested checked.1 checked.2]

/-- The breach of the protocol that a check found. -/
def violation? (checked : Worker × Checked) : Option Violation :=
  match checked.2 with
  | .violated violation => some violation
  | _ => none

/-- The result that is made up because of a check. -/
def madeUp? (checked : Worker × Checked) : Option TestResult :=
  (violation? checked).map fun violation => (checked.1.violationResult violation).1

/-- Whether the worker's own result was passed on. -/
def hasPassed (checked : Worker × Checked) : Bool := checked.1.phase = .completed true

/-- The workers that are over, with what checking on them came to. -/
def State.endings (s : State) (order : List Token) : List (Worker × Checked) :=
  (s.checks order).filter fun checked => checked.2.isOver

/-- Everything that a step can do. -/
inductive Transition (setup : Setup) (s : State) : Move → State → List Effect → Prop where
  /-- The first jobs are handed over. -/
  | submitted (jobs : List Job) (hphase : s.phase = .init) :
    Transition setup s (.submit jobs) { s with phase := .dispatching, pending := jobs } []
  /-- Jobs that are handed over later are refused. -/
  | resubmitted (jobs : List Job) (hphase : s.phase.isOver = true) :
    Transition setup s (.submit jobs)
      { s with
        log := ⟨s.log.results ++ jobs.map fun job => State.refusal job State.alreadyRun⟩
        summary := { s.summary with
          jobs := s.summary.jobs + jobs.length
          rejected := s.summary.rejected + jobs.length } }
      (jobs.map fun job => .passedOn (.refused job) (State.refusal job State.alreadyRun))
  /-- A job is refused. -/
  | refused (job : Job) (rest : List Job) (reason : String) (hphase : s.phase = .dispatching)
      (hpending : s.pending = job :: rest) (hreason : s.refusal? job = some reason) :
    Transition setup s .dispatch
      { s with
        pending := rest
        log := s.log.add (State.refusal job reason)
        summary := { s.summary with
          jobs := s.summary.jobs + 1
          rejected := s.summary.rejected + 1 } }
      [.passedOn (.refused job) (State.refusal job reason)]
  /-- An embedded job is started and kept by its runner. -/
  | kept (job : Job) (rest : List Job) (cpus : List Nat) (layout : CpuLayout)
      (hphase : s.phase = .dispatching) (hpending : s.pending = job :: rest)
      (hreason : s.refusal? job = none) (hdispatch : job.dispatch = .embedded)
      (hacquire : s.layout.tryAcquire job.threads = some (cpus, layout))
      (hrunner : setup.runner job cpus = .kept) :
    Transition setup s .dispatch
      { s with
        layout := layout
        pending := rest
        tickets := s.tickets ++ [⟨job, cpus⟩]
        summary := { s.summary with
          jobs := s.summary.jobs + 1
          embeddedDispatched := s.summary.embeddedDispatched + 1 } }
      [.started job cpus none]
  /-- An embedded job is started and is over at once. -/
  | endedAtOnce (job : Job) (rest : List Job) (cpus : List Nat) (layout : CpuLayout)
      (result : TestResult) (phase : Phase) (hphase : s.phase = .dispatching)
      (hpending : s.pending = job :: rest) (hreason : s.refusal? job = none)
      (hdispatch : job.dispatch = .embedded)
      (hacquire : s.layout.tryAcquire job.threads = some (cpus, layout))
      (hrunner : EndsAtOnce ⟨job, cpus⟩ (setup.runner job cpus) result phase) :
    Transition setup s .dispatch
      { s with
        layout := layout
        phase := phase
        pending := rest
        queue := s.queue ++ [.released cpus]
        log := s.log.add result
        summary := { s.summary with
          jobs := s.summary.jobs + 1
          embeddedDispatched := s.summary.embeddedDispatched + 1 } }
      [.started job cpus none, .passedOn (.embedded ⟨job, cpus⟩) result]
  /-- A forked job is started. -/
  | forked (job : Job) (rest : List Job) (cpus : List Nat) (layout : CpuLayout) (worker : Worker)
      (hphase : s.phase = .dispatching) (hpending : s.pending = job :: rest)
      (hreason : s.refusal? job = none) (hdispatch : job.dispatch = .forked)
      (hacquire : s.layout.tryAcquire job.threads = some (cpus, layout))
      (hprepare : Worker.prepare setup.host setup.settings setup.endpoint
        (State.tokenOf (s.issued + 1)) job cpus = .ok worker) :
    Transition setup s .dispatch
      { s with
        layout := layout
        pending := rest
        issued := s.issued + 1
        workers := s.workers ++ [worker.start setup.host]
        summary := { s.summary with
          jobs := s.summary.jobs + 1
          forkedDispatched := s.summary.forkedDispatched + 1 } }
      [.started job cpus (some (State.tokenOf (s.issued + 1)))]
  /-- The worker of a forked job cannot be prepared. -/
  | unprepared (job : Job) (rest : List Job) (cpus : List Nat) (layout : CpuLayout)
      (fault : IoFault) (hphase : s.phase = .dispatching) (hpending : s.pending = job :: rest)
      (hreason : s.refusal? job = none) (hdispatch : job.dispatch = .forked)
      (hacquire : s.layout.tryAcquire job.threads = some (cpus, layout))
      (hprepare : Worker.prepare setup.host setup.settings setup.endpoint
        (State.tokenOf (s.issued + 1)) job cpus = .error (.io fault)) :
    Transition setup s .dispatch
      { s with
        pending := rest
        issued := s.issued + 1
        log := s.log.add (State.unpreparedResult job fault)
        summary := { s.summary with
          jobs := s.summary.jobs + 1
          synthesizedFailures := s.summary.synthesizedFailures + 1 } }
      [.started job cpus (some (State.tokenOf (s.issued + 1))),
        .passedOn (.forked (State.tokenOf (s.issued + 1)) job)
          (State.unpreparedResult job fault)]
  /-- The dispatching ends. -/
  | drained (hphase : s.phase = .dispatching) (hpending : s.pending = []) :
    Transition setup s .drain { s with phase := .draining } []
  /-- The run ends. -/
  | closed (elapsed : Time.Span) (hphase : s.phase = .draining) (hidle : s.layout.isIdle = true) :
    Transition setup s (.close elapsed)
      { s with phase := .terminated, summary := { s.summary with elapsed := elapsed } } []
  /-- The peer of a live worker asks for its job. -/
  | pulled (token : Token) (rest : List Event) (worker : Worker) (hphase : s.phase.isActive = true)
      (hqueue : s.queue = .pull token :: rest) (hworker : s.worker? token = some worker) :
    Transition setup s .handle
      (State.updateWorker { s with queue := rest } token fun w => w.takeJob.2)
      [.pulled token (.ok worker.takeJob.1)]
  /-- A peer asks for the job of a token that names no live worker. -/
  | pulledUnknown (token : Token) (rest : List Event) (hphase : s.phase.isActive = true)
      (hqueue : s.queue = .pull token :: rest) (hworker : s.worker? token = none) :
    Transition setup s .handle
      (State.noteViolation { s with queue := rest } ⟨token, .unknownToken⟩)
      [.pulled token (.error (.unknownToken token))]
  /-- The peer of a live worker hands its result over. -/
  | pushed (token : Token) (result : TestResult) (rest : List Event) (worker after : Worker)
      (hphase : s.phase.isActive = true) (hqueue : s.queue = .push token result :: rest)
      (hworker : s.worker? token = some worker) (hrecord : worker.record result = .ok after) :
    Transition setup s .handle (State.updateWorker { s with queue := rest } token fun _ => after)
      [.pushed token (.ok ())]
  /-- The peer of a live worker hands over a result that is not wanted any more. -/
  | pushedAgain (token : Token) (result : TestResult) (rest : List Event) (worker : Worker)
      (violation : Violation) (hphase : s.phase.isActive = true)
      (hqueue : s.queue = .push token result :: rest) (hworker : s.worker? token = some worker)
      (hrecord : worker.record result = .error violation) :
    Transition setup s .handle (State.noteViolation { s with queue := rest } violation)
      [.pushed token (.error (.protocol violation.message))]
  /-- A peer hands a result over under a token that names no live worker. -/
  | pushedUnknown (token : Token) (result : TestResult) (rest : List Event)
      (hphase : s.phase.isActive = true) (hqueue : s.queue = .push token result :: rest)
      (hworker : s.worker? token = none) :
    Transition setup s .handle
      (State.noteViolation { s with queue := rest } ⟨token, .unknownToken⟩)
      [.pushed token (.error (.unknownToken token))]
  /-- The CPUs of an embedded job are given back. -/
  | reclaimed (cpus : List Nat) (rest : List Event) (layout : CpuLayout)
      (hphase : s.phase.isActive = true) (hqueue : s.queue = .released cpus :: rest)
      (hrelease : s.layout.release cpus = (none, layout)) :
    Transition setup s .handle
      { s with
        layout := layout
        queue := rest
        summary := { s.summary with embeddedCompleted := s.summary.embeddedCompleted + 1 } }
      [.reclaimed cpus]
  /-- A worker is killed. -/
  | killed (token : Token) (rest : List Event) (hphase : s.phase.isActive = true)
      (hqueue : s.queue = .kill token :: rest) :
    Transition setup s .handle (State.updateWorker { s with queue := rest } token Worker.kill) []
  /-- The workers that are over are harvested. -/
  | reaped (order : List Token) (layout : CpuLayout) (hphase : s.phase.isActive = true)
      (horder : order.Perm s.liveTokens)
      (hrelease : s.layout.release ((s.endings order).flatMap fun c => c.1.cpus) = (none, layout)) :
    Transition setup s (.reap order)
      { s with
        layout := layout
        workers := s.workers.filter fun worker => !worker.check.2.isOver
        log := ⟨s.log.results ++ ((s.checks order).filterMap fun c => c.2.result?) ++
          (s.endings order).filterMap madeUp?⟩
        summary := { s.summary with
          forkedPassed := s.summary.forkedPassed + (s.endings order).countP hasPassed
          synthesizedFailures :=
            s.summary.synthesizedFailures + (s.endings order).countP (!hasPassed ·)
          violations := s.summary.violations ++ (s.endings order).filterMap violation? } }
      ((s.checks order).filterMap State.reportEffect? ++ (s.endings order).flatMap harvestEffects)
  /-- An event comes from outside. -/
  | requested (event : Event) (hevent : event.isRequest = true) :
    Transition setup s (.request event) { s with queue := s.queue ++ [event] } []
  /-- A runner finishes a job it has kept. -/
  | finished (position : Nat) (result : TestResult) (ticket : Ticket)
      (hticket : s.tickets[position]? = some ticket) :
    Transition setup s (.finish position result)
      { s with
        tickets := s.tickets.eraseIdx position
        leaving := s.leaving ++ [ticket]
        log := s.log.add result }
      [.passedOn (.embedded ticket) result]
  /-- A runner drops a job it has kept. -/
  | abandoned (position : Nat) (ticket : Ticket) (hticket : s.tickets[position]? = some ticket) :
    Transition setup s (.abandon position)
      { s with
        tickets := s.tickets.eraseIdx position
        leaving := s.leaving ++ [ticket]
        log := s.log.add ticket.abandonedResult }
      [.passedOn (.embedded ticket) ticket.abandonedResult]
  /-- An embedded job says that it is done with its CPUs. -/
  | notified (position : Nat) (ticket : Ticket) (hticket : s.leaving[position]? = some ticket) :
    Transition setup s (.notify position)
      { s with
        leaving := s.leaving.eraseIdx position
        queue := s.queue ++ [.released ticket.cpus] }
      []
  /-- The process of a worker ends. -/
  | exited (token : Token) (exit : Exit) :
    Transition setup s (.exit token exit) (s.updateWorker token (Worker.finish exit)) []
  /-- The operating system stops giving news of a worker's process. -/
  | lost (token : Token) (fault : IoFault) :
    Transition setup s (.lose token fault) (s.updateWorker token (Worker.lose fault)) []

end Scheduler

end StressBatch
