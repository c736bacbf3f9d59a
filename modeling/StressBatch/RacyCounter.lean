import StressBatch.Registry

/-!
# The racy counter

The built-in workload. All roles share one counter. In each round every role reads the counter and
writes back the value plus one, in two separate steps, then all roles meet; the first role takes the
counter's value down and sets the counter to zero, then all roles meet again. A recorded value below
the number of roles is a lost update.

`RacyCounter.step` is the interleaving semantics, one step of one role at a time. The workload
itself reports the rounds of the interleaving in which the roles take turns.
-/

namespace StressBatch.RacyCounter

/-! ## Interleavings -/

/-- Where a role stands within a round. -/
inductive Stage where
  /-- About to read the counter. -/
  | load
  /-- About to write the successor of the value it has read. -/
  | store (read : Nat)
  /-- Waiting for all roles to have written. -/
  | written
  /-- Between the two meetings; the first role is about to record the counter. -/
  | recording
  /-- Waiting for all roles to end the round. -/
  | ended
  deriving DecidableEq, Repr

/-- All roles at one moment. -/
structure Moment where
  /-- The shared counter. -/
  counter : Nat
  /-- Where each role stands. -/
  stages : List Stage
  /-- The rounds not yet ended. -/
  roundsLeft : Nat
  /-- The values recorded so far, oldest first. -/
  seen : List Nat
  deriving DecidableEq, Repr

/-- The moment before the first round. -/
def start (rounds threads : Nat) : Moment :=
  ⟨0, List.replicate threads .load, rounds, []⟩

/-- The moment after all roles have met at `meeting`: everyone goes on to `next`. -/
def Moment.meet (m : Moment) (meeting next : Stage) (roundsLeft : Nat) : Option Moment :=
  if m.stages.all (· == meeting) then
    some { m with stages := m.stages.map fun _ => next, roundsLeft := roundsLeft }
  else none

/-- One step of one role; `none` if the role has to wait, has finished or does not exist. -/
def step (m : Moment) (role : Nat) : Option Moment :=
  if m.roundsLeft = 0 then none
  else
    match m.stages[role]? with
    | none => none
    | some .load => some { m with stages := m.stages.set role (.store m.counter) }
    | some (.store read) =>
      some { m with counter := read + 1, stages := m.stages.set role .written }
    | some .written => m.meet .written .recording m.roundsLeft
    | some .recording =>
      if role = 0 then
        some { m with
          counter := 0, seen := m.seen ++ [m.counter], stages := m.stages.set role .ended }
      else some { m with stages := m.stages.set role .ended }
    | some .ended => m.meet .ended .load (m.roundsLeft - 1)

/-- Follows a schedule of roles; a step that cannot be taken leaves the moment as it is. -/
def run (m : Moment) : List Nat → Moment
  | [] => m
  | role :: schedule => run ((step m role).getD m) schedule

/-- Whether all rounds are over. -/
def Moment.isFinished (m : Moment) : Bool := m.roundsLeft == 0

/-! ## The workload -/

/-- The harness that the racy counter answers to. -/
def harness : String := "builtin.racy_counter"

/-- How many rounds the racy counter runs unless told otherwise. -/
def defaultRounds : Nat := 5000

/-- The result that reports the given recorded values. -/
def report (job : Job) (seen : List Nat) : TestResult :=
  seen.foldl (fun result value => result.addState (toString value) 1)
    { job := job, status := .normal }

/-- The names of the role threads, or the panic of the first that cannot be named. -/
def threadNames (job : Job) : Except Panic (List String) :=
  (job.roles.take job.threads).mapM fun role => threadName (job.name ++ "-" ++ role)

/-- The values recorded when the roles take turns: every role reads what the one before it wrote, so
no update is lost. -/
def seenInTurns (rounds threads : Nat) : List Nat := List.replicate rounds threads

/-- The racy counter of the given number of rounds. -/
def workload (rounds : Nat) : Workload where
  harness := harness
  run job :=
    match threadNames job with
    | .error panic => .panicked panic
    | .ok _ => .returned (report job (seenInTurns rounds job.threads))

end StressBatch.RacyCounter

namespace StressBatch.Registry

/-- The registry of the built-in workloads. -/
def withBuiltins : Registry := ⟨[RacyCounter.workload RacyCounter.defaultRounds]⟩

end StressBatch.Registry
