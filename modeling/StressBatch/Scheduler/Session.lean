import StressBatch.Scheduler.Run

/-!
# Sessions

A run that is steered from outside, one command at a time. After every command the scheduler goes on
until it waits for something that will not come of its own accord, so the order of the commands
alone decides what happens. A session that has run out of commands is wound up: the embedded jobs
that are left are abandoned, oldest first, and after them the workers that are left are killed.
-/

namespace StressBatch.Scheduler

/-- What somebody outside does to a run. -/
inductive Command where
  /-- The process of a worker ends. -/
  | exit (token : Token) (exit : Exit)
  /-- The user kills a worker. -/
  | kill (token : Token)
  /-- The runner finishes the oldest job of a name that it has kept. -/
  | finish (name : String) (result : TestResult)
  /-- The runner drops the oldest job of a name that it has kept. -/
  | abandon (name : String)
  deriving DecidableEq

/-- What becomes of a command. -/
inductive Reply where
  /-- The scheduler has been told. -/
  | told
  /-- A worker or a job has been ended. -/
  | ended
  /-- What was to be ended does not run. -/
  | notRunning
  /-- The run is over, and no worker can end any more. -/
  | terminated
  deriving DecidableEq, Repr

/-- What is new since an earlier moment. -/
structure News where
  /-- How many jobs have been dispatched or refused in all. -/
  dispatched : Nat
  /-- The embedded jobs that have been started. -/
  started : List Ticket
  /-- The results that have been passed on. -/
  results : List TestResult

/-- The embedded job that was started, if that is what happened. -/
def Effect.ticket? : Effect → Option Ticket
  | .started job cpus none => some ⟨job, cpus⟩
  | _ => none

namespace State

/-- The position of the oldest job of a name that a runner has kept. -/
def ticketPosition? (s : State) (name : String) : Option Nat :=
  s.tickets.findIdx? fun ticket => ticket.job.name == name

/-- The oldest job of a name that a runner has kept. -/
def ticket? (s : State) (name : String) : Option Ticket :=
  s.tickets.find? fun ticket => ticket.job.name == name

/-- The moves that a command amounts to, and what becomes of it. -/
def obey (s : State) : Command → List Move × Reply
  | .exit token exit =>
    if !s.phase.isActive then ([], .terminated)
    else if (s.worker? token).isSome then ([.exit token exit], .ended)
    else ([], .notRunning)
  | .kill token => ([.request (.kill token)], .told)
  | .finish name result =>
    match s.ticketPosition? name with
    | some position => ([.finish position result, .notify s.leaving.length], .ended)
    | none => ([], .notRunning)
  | .abandon name =>
    match s.ticketPosition? name with
    | some position => ([.abandon position, .notify s.leaving.length], .ended)
    | none => ([], .notRunning)

/-- The tokens of the live workers in ascending order. -/
def sortedTokens (s : State) : List Token := s.liveTokens.mergeSort fun a b => decide (a ≤ b)

/-- The command that winds a session up by one step, as long as its run is not over. Workers are
killed in the order of their tokens. -/
def closing? (s : State) : Option Command :=
  if s.phase.isActive then
    match s.tickets with
    | ticket :: _ => some (.abandon ticket.job.name)
    | [] => s.sortedTokens.head?.map .kill
  else none

end State

namespace Progress

/-- What is new since an earlier moment. -/
def since (progress earlier : Progress) : News where
  dispatched := progress.state.summary.jobs
  started := (progress.effects.drop earlier.effects.length).filterMap Effect.ticket?
  results := progress.state.log.results.drop earlier.state.log.size

/-- Carries a command out and goes on as far as that leads. -/
def obey (setup : Setup) (progress : Progress) (command : Command) : Progress × Reply :=
  let (moves, reply) := progress.state.obey command
  ((progress.follow setup moves).settle setup, reply)

/-- Winds a session up. The fuel bounds the number of commands that this takes. -/
def windUpWith (setup : Setup) :
    (fuel : Nat) → Progress → Progress × List (News × Reply)
  | 0, progress => (progress, [])
  | fuel + 1, progress =>
    match progress.state.closing? with
    | none => (progress, [])
    | some command =>
      let (after, reply) := progress.obey setup command
      let (final, shown) := windUpWith setup fuel after
      (final, (after.since progress, reply) :: shown)

/-- Winds a session up. Every command ends a job, so there are not more of them than jobs. -/
def windUp (setup : Setup) (progress : Progress) : Progress × List (News × Reply) :=
  let s := progress.state
  progress.windUpWith setup (s.pending.length + s.tickets.length + s.workers.length)

end Progress

end StressBatch.Scheduler
